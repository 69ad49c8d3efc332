/-!
# Real numbers as text

Numbers in decimal with a point and an exponent, and the names of infinity and of what is no number.
-/

namespace KeyText

/-- Text without a sign in front. -/
def withoutSign : List Char → List Char
  | '+' :: rest | '-' :: rest => rest
  | text => text

/-- Whether a text without a sign is digits, with a point among them or at an end, and perhaps an exponent. -/
def isDecimal (text : List Char) : Bool :=
  let (whole, rest) := text.span Char.isDigit
  let (fraction, rest) :=
    match rest with
    | '.' :: rest => rest.span Char.isDigit
    | rest => ([], rest)
  let exponent :=
    match rest with
    | [] => true
    | mark :: rest =>
      let digits := withoutSign rest
      (mark == 'e' || mark == 'E') && !digits.isEmpty && digits.all Char.isDigit
  !(whole.isEmpty && fraction.isEmpty) && exponent

/-- Whether a text is a real number, infinity or no number, with or without a sign. -/
def isRealNumber (text : List Char) : Bool :=
  let unsigned := withoutSign text
  ["inf", "infinity", "nan"].contains (String.ofList unsigned).toLower || isDecimal unsigned

end KeyText
