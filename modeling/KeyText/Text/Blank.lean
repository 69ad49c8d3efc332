/-!
# White space

The Unicode property White_Space: the 25 characters that only set other characters apart. Texts are trimmed of them, and
hexadecimal digits may have any number of them between.
-/

namespace KeyText

/-- Whether a character is white space: tab to carriage return, the space, next line, the no-break space, the Ogham space
mark, the spaces U+2000 to U+200A, the line and paragraph separators, and the narrow, mathematical and ideographic space. -/
def isBlank (c : Char) : Bool :=
  let p := c.toNat
  (0x09 ≤ p && p ≤ 0x0D) || p == 0x20 || p == 0x85 || p == 0xA0 || p == 0x1680 || (0x2000 ≤ p && p ≤ 0x200A) ||
    p == 0x2028 || p == 0x2029 || p == 0x202F || p == 0x205F || p == 0x3000

/-- Text without the white space at its two ends. -/
def trimmed (cs : List Char) : List Char :=
  ((cs.dropWhile isBlank).reverse.dropWhile isBlank).reverse

/-- Text without any white space. -/
def squeezed (cs : List Char) : List Char :=
  cs.filter fun c => !isBlank c

end KeyText
