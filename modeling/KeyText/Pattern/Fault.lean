/-!
# Faults of patterns

Where a pattern is wrong and why, and the message that shows the place under the pattern. Places are counted in lines and
columns, both from one.
-/

namespace KeyText.Pattern

/-- A place in a pattern, in front of the character there. -/
structure Place where
  line : Nat
  column : Nat
  deriving DecidableEq, Repr

/-- The place behind a character. -/
def Place.after (place : Place) (c : Char) : Place :=
  if c = '\n' then ⟨place.line + 1, 1⟩ else ⟨place.line, place.column + 1⟩

/-- A part of a pattern, from its first place to the place behind it. -/
structure Span where
  start : Place
  stop : Place
  deriving DecidableEq, Repr

/-- How deep a pattern may be nested. -/
def depthLimit : Nat := 250

/-- Why a pattern is wrong. -/
inductive Reason where
  /-- An escape in brackets that stands for no character. -/
  | bracketEscape
  /-- A range that ends before it starts. -/
  | rangeOrder
  /-- A range whose end is more than one character. -/
  | rangeEnd
  | bracketUnclosed
  /-- A count that does not fit 32 bits. -/
  | countTooLarge
  | countEmpty
  | countUnclosed
  /-- A code that no character has. -/
  | hexValue
  | hexDigit
  | escapeUnfinished
  | escapeUnknown
  /-- A minus sign behind which no flag follows. -/
  | minusDangling
  | minusRepeated
  | flagRepeated
  | flagsUnfinished
  | flagUnknown
  | nameRepeated
  | nameEmpty
  | nameCharacter
  | nameUnclosed
  | groupUnclosed
  | groupUnopened
  | tooDeep
  | repetitionMissing
  | wordEdgeUnclosed
  /-- A brace behind a word edge that may name the kind of edge or begin a count. -/
  | wordEdgeUnfinished
  | propertyName
  | backreference
  | lookAround
  /-- A character that is not ASCII where characters are bytes. -/
  | unicodeForbidden
  /-- A part that matches bytes which are no text. -/
  | invalidText
  /-- A property of characters. None is known. -/
  | propertyUnknown
  /-- A shorthand for digits, white space or letters beyond ASCII. -/
  | shorthandUnknown
  /-- Letters in either case, beyond ASCII. -/
  | caseUnknown
  deriving DecidableEq, Repr

/-- The wording of a reason. -/
def Reason.message : Reason → String
  | bracketEscape => "invalid escape sequence found in character class"
  | rangeOrder => "invalid character class range, the start must be <= the end"
  | rangeEnd => "invalid range boundary, must be a literal"
  | bracketUnclosed => "unclosed character class"
  | countTooLarge => "decimal literal invalid"
  | countEmpty => "repetition quantifier expects a valid decimal"
  | countUnclosed => "unclosed counted repetition"
  | hexValue => "hexadecimal literal is not a Unicode scalar value"
  | hexDigit => "invalid hexadecimal digit"
  | escapeUnfinished => "incomplete escape sequence, reached end of pattern prematurely"
  | escapeUnknown => "unrecognized escape sequence"
  | minusDangling => "dangling flag negation operator"
  | minusRepeated => "flag negation operator repeated"
  | flagRepeated => "duplicate flag"
  | flagsUnfinished => "expected flag but got end of regex"
  | flagUnknown => "unrecognized flag"
  | nameRepeated => "duplicate capture group name"
  | nameEmpty => "empty capture group name"
  | nameCharacter => "invalid capture group character"
  | nameUnclosed => "unclosed capture group name"
  | groupUnclosed => "unclosed group"
  | groupUnopened => "unopened group"
  | tooDeep => s!"exceed the maximum number of nested parentheses/brackets ({depthLimit})"
  | repetitionMissing => "repetition operator missing expression"
  | wordEdgeUnclosed => "special word boundary assertion is either unclosed or contains an invalid character"
  | wordEdgeUnfinished =>
    "found either the beginning of a special word boundary or a bounded repetition on a \\b with an opening brace, " ++
      "but no closing brace"
  | propertyName => "invalid Unicode character class"
  | backreference => "backreferences are not supported"
  | lookAround => "look-around, including look-ahead and look-behind, is not supported"
  | unicodeForbidden => "Unicode not allowed here"
  | invalidText => "pattern can match invalid UTF-8"
  | propertyUnknown => "Unicode property not found"
  | shorthandUnknown => "Unicode-aware Perl class not found (make sure the unicode-perl feature is enabled)"
  | caseUnknown =>
    "Unicode-aware case insensitivity matching is not available (make sure the unicode-case feature is enabled)"

/-- What is wrong with a pattern, and where. Where something is repeated, the earlier one is shown as well. -/
structure Fault where
  reason : Reason
  span : Span
  earlier? : Option Span := none
  deriving DecidableEq, Repr

/-- The answer that a part of a pattern is wrong. -/
def fail {α : Type} (reason : Reason) (span : Span) : Except Fault α :=
  .error { reason, span }

/-! ## The message -/

/-- A line without the carriage return at its end. -/
def withoutReturn (line : List Char) : List Char :=
  if line.getLast? = some '\r' then line.dropLast else line

/-- The lines of a text. What stands behind the last line feed is a line only if it is not empty. -/
def lines (text : List Char) : List (List Char) :=
  let parts := text.splitOn '\n'
  let ended := parts.dropLast.map withoutReturn
  match parts.getLast? with
  | none | some [] => ended
  | some last => ended ++ [last]

/-- Carets under the columns of the given spans of one line, which are in order. A span without width has one caret. -/
def marks (spans : List Span) : List Char :=
  spans.foldl
    (fun marked span =>
      marked ++ List.replicate (span.start.column - 1 - marked.length) ' ' ++
        List.replicate (max 1 (span.stop.column - span.start.column)) '^')
    []

/-- The pattern with marks under the spans that lie in one line. Lines are numbered if there are several. -/
def marked (pattern : List Char) (spans : List Span) : List Char :=
  let count := (pattern.splitOn '\n').length
  let width := if count ≤ 1 then 0 else (Nat.toDigits 10 count).length
  ((lines pattern).zipIdx 1).flatMap fun (line, number) =>
    let digits := Nat.toDigits 10 number
    let margin :=
      if width = 0 then "    ".toList else List.replicate (width - digits.length) ' ' ++ digits ++ [':', ' ']
    let here := spans.filter fun span => span.start.line == number && span.stop.line == number
    let below := if here.isEmpty then [] else List.replicate margin.length ' ' ++ marks here ++ ['\n']
    margin ++ line ++ ['\n'] ++ below

/-- Where a span of several lines lies. -/
def Span.extent (span : Span) : String :=
  s!"on line {span.start.line} (column {span.start.column}) through line {span.stop.line} (column {span.stop.column - 1})"

/-- The message for a fault of a pattern. -/
def Fault.message (pattern : List Char) (fault : Fault) : String :=
  let spans := fault.earlier?.toList ++ [fault.span]
  let shown := String.ofList (marked pattern spans)
  let body :=
    if pattern.contains '\n' then
      let divider := String.ofList (List.replicate 79 '~') ++ "\n"
      let extents := (spans.filter fun span => span.start.line != span.stop.line).map Span.extent
      let below := if extents.isEmpty then "" else String.intercalate "\n" extents ++ "\n"
      divider ++ shown ++ divider ++ below
    else shown
  s!"regex parse error:\n{body}error: {fault.reason.message}"

end KeyText.Pattern
