import KeyText.Pattern.Cursor

/-!
# Escapes

What a backslash and the characters behind it stand for. A pattern stands between braces itself, so behind an opening brace
in it there is no closing one: every form of escape with braces is a fault.
-/

namespace KeyText.Pattern

/-- Whether a character is a hexadecimal digit. -/
def isHexDigit (c : Char) : Bool :=
  c.isDigit || ('a' ≤ c && c ≤ 'f') || ('A' ≤ c && c ≤ 'F')

/-- The value of a hexadecimal digit. -/
def hexValue (c : Char) : Nat :=
  if c.isDigit then c.toNat - '0'.toNat else c.toLower.toNat - 'a'.toNat + 10

/-- Reads so many hexadecimal digits. -/
def hexDigits : (count : Nat) → (value : Nat) → Cursor → Except Fault (Nat × Cursor)
  | 0, value, c => .ok (value, c)
  | count + 1, value, c =>
    match c.rest with
    | [] => fail .escapeUnfinished c.here
    | x :: _ => if isHexDigit x then hexDigits count (value * 16 + hexValue x) c.advance else fail .hexDigit c.char

/-- The fault of hexadecimal digits behind an opening brace, at which the cursor is. -/
def hexBraceFault (brace : Cursor) : Fault :=
  let (_, c) := brace.advance.take isHexDigit
  match c.rest with
  | [] => { reason := .escapeUnfinished, span := c.since brace.place }
  | _ => { reason := .hexDigit, span := c.char }

/-- Reads a character by its code, so many digits long. The cursor is at the letter that tells their number. -/
def codeEscape (start : Place) (count : Nat) (letter : Cursor) : Except Fault (Atom × Cursor) :=
  let first := letter.advance
  if first.rest.head? = some '\x7b' then .error (hexBraceFault first)
  else do
    let (value, c) ← hexDigits count 0 first
    if value.isValidChar then return (.literal (c.since start) (Char.ofNat value) (count == 2), c)
    else fail .hexValue (c.since first.place)

/-- Reads a property, which is one letter. The cursor is at the letter in front of it. -/
def propertyEscape (start : Place) (letter : Cursor) : Except Fault (Atom × Cursor) :=
  let name := letter.advance
  match name.rest with
  | [] => fail .escapeUnfinished name.here
  | '\x7b' :: rest => fail .escapeUnfinished (name.steps (rest.length + 1)).here
  | '\\' :: _ => fail .propertyName name.char
  | _ => .ok (.property (name.advance.since start), name.advance)

/-- Whether a character may stand in the name of a kind of word edge. -/
def isEdgeLetter (c : Char) : Bool :=
  c.isAlpha || c == '-'

/-- The fault of a name behind a word edge and an opening brace, at which the cursor is. If no name follows, the brace begins
a count. -/
def edgeNameFault? (start : Place) (brace : Cursor) : Option Fault :=
  let name := brace.advance
  match name.rest with
  | [] => some { reason := .wordEdgeUnfinished, span := name.since start }
  | x :: _ =>
    if isEdgeLetter x then some { reason := .wordEdgeUnclosed, span := (name.take isEdgeLetter).2.since brace.place }
    else none

/-- The control characters that have a letter. -/
def controls : List (Char × Char) :=
  [('a', '\x07'), ('f', '\x0C'), ('t', '\t'), ('n', '\n'), ('r', '\r'), ('v', '\x0B')]

/-- Reads an escape; the cursor is at its backslash. Every ASCII character but letters, digits and angle brackets stands for
itself. -/
def escape (backslash : Cursor) : Except Fault (Atom × Cursor) :=
  let start := backslash.place
  let letter := backslash.step
  let behind := letter.step
  let span := behind.since start
  match letter.rest with
  | [] => fail .escapeUnfinished span
  | x :: _ =>
    if x.isDigit then fail .backreference span
    else if x = 'x' then codeEscape start 2 letter
    else if x = 'u' then codeEscape start 4 letter
    else if x = 'U' then codeEscape start 8 letter
    else if x = 'p' ∨ x = 'P' then propertyEscape start letter
    else if x ∈ ['d', 's', 'w'] then .ok (.shorthand span false, behind)
    else if x ∈ ['D', 'S', 'W'] then .ok (.shorthand span true, behind)
    else if x = 'A' ∨ x = 'z' then .ok (.anchor span, behind)
    else if x = 'b' then
      if behind.rest.head? = some '\x7b' then
        match edgeNameFault? start behind with
        | some fault => .error fault
        | none => .ok (.wordEdge span, behind)
      else .ok (.wordEdge span, behind)
    else if x ∈ ['B', '<', '>'] then .ok (.wordEdge span, behind)
    else if x.toNat < 128 && !x.isAlphanum then .ok (.literal span x false, behind)
    else
      match controls.lookup x with
      | some control => .ok (.literal span control false, behind)
      | none => fail .escapeUnknown span

end KeyText.Pattern
