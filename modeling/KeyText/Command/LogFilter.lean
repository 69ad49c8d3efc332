import KeyText.Pattern.Check
import KeyText.Text.Quoted
import KeyText.Text.RealNumber
import KeyText.Text.WholeNumber

/-!
# Log filters

Which events are logged is set by directives between commas. A directive is a level alone, or it names a part of the program,
a span between square brackets, or both, and may end in an equals sign and a level: `target[span{field=value}]=level`. A
level is one of six names, in any mix of ASCII cases, or a number from zero to five. The value of a field is a number, or a
pattern for texts.

A directive is read without the white space around it, but its parts are cut out of the directive as it is written, at the
places where the reader found them. So where white space stands in front, what follows the equals sign is cut too early and
is no level, or the cut falls inside a character.
-/

namespace KeyText.LogFilter

/-- Why a filter cannot be used. -/
inductive Fault where
  /-- A level that is neither a name nor a number of one. -/
  | level
  /-- A directive whose parts do not follow the form. -/
  | form
  /-- A field whose value is a pattern that cannot be used. -/
  | pattern (text : List Char) (refusal : Pattern.Refusal)
  /-- A part that would begin or end inside a character. -/
  | severed
  deriving DecidableEq, Repr

/-- The names of the levels, the number of a level being its place. -/
def levels : List String :=
  ["off", "error", "warn", "info", "debug", "trace"]

/-- Whether a text names a level. -/
def isLevel (text : String) : Bool :=
  levels.contains text.toLower || (wholeNumber? text).any (· < levels.length)

/-- What a reader is in the middle of. The parts that are cut out begin at a place, in bytes. -/
inductive Reading where
  /-- Nothing has been read. -/
  | nothing
  /-- A level alone, or the name of a part of the program. -/
  | target
  | span (start : Nat)
  | field (start : Nat)
  /-- The fields of a span are at their end. -/
  | fields
  /-- The span is at its end. -/
  | spanned
  | level (start : Nat)
  deriving DecidableEq, Repr

/-- Whether a directive may begin with a character, apart from the bracket of a span. -/
def begins (c : Char) : Bool :=
  c == '-' || c == ':' || c == '_' || Alphanumeric.holds c

/-- Whether no character of a text lies across a place, in bytes. -/
def isBoundary : (place : Nat) → List Char → Bool
  | 0, _ => true
  | _ + 1, [] => false
  | place + 1, c :: rest => c.utf8Size ≤ place + 1 && isBoundary (place + 1 - c.utf8Size) rest

/-- The reader cuts a part out of a written directive, and goes on with another. -/
def cut (written : List Char) (start stop : Nat) (next : Reading) : Except Fault Reading :=
  if isBoundary start written && isBoundary stop written then .ok next else .error .severed

/-- The characters from a place onward, in bytes, where the place lies between two characters. -/
def dropBytes : (place : Nat) → List Char → List Char
  | 0, cs => cs
  | _ + 1, [] => []
  | place + 1, c :: rest => dropBytes (place + 1 - c.utf8Size) rest

/-- The characters up to a place, in bytes, where the place lies between two characters. -/
def takeBytes : (place : Nat) → List Char → List Char
  | 0, _ => []
  | _ + 1, [] => []
  | place + 1, c :: rest => c :: takeBytes (place + 1 - c.utf8Size) rest

/-- Checks a field. Its value stands between the first equals sign and the next. -/
def checkField (field : List Char) : Except Fault Unit :=
  match field.splitOn '=' with
  | _ :: value :: _ => if isRealNumber value then .ok () else (Pattern.check value).mapError (.pattern value)
  | _ => .ok ()

/-- Reads one character at a place. -/
def Reading.step (written : List Char) (place : Nat) (c : Char) : Reading → Except Fault Reading
  | nothing => if c = '[' then .ok (span (place + 1)) else if begins c then .ok target else .error .form
  | target =>
    if c = '=' then cut written 0 place (level (place + 1))
    else if c = '[' then cut written 0 place (span (place + 1))
    else .ok target
  | span start =>
    if c = ']' then cut written start place spanned
    else if c = '\x7b' then cut written start place (field (place + 1))
    else .ok (span start)
  | field start =>
    if c = '\x7d' then do
      let next ← cut written start place fields
      if start = place then .error .form
      checkField (takeBytes (place - start) (dropBytes start written))
      return next
    else .ok (field start)
  | fields => if c = ']' then .ok spanned else .error .form
  | spanned => if c = '=' then .ok (level (place + 1)) else .error .form
  | level start => .ok (level start)

/-- Reads characters from a place onward. -/
def Reading.run (written : List Char) : (place : Nat) → List Char → Reading → Except Fault Reading
  | _, [], reading => .ok reading
  | place, c :: rest, reading => do
    Reading.run written (place + c.utf8Size) rest (← reading.step written place c)

/-- Whether a directive may end here. An empty level is the greatest. -/
def Reading.finish (written : List Char) : Reading → Except Fault Unit
  | target | spanned => .ok ()
  | level start =>
    let text := String.ofList (dropBytes start written)
    if !isBoundary start written then .error .severed
    else if text.isEmpty || isLevel text then .ok ()
    else .error .level
  | nothing | span _ | field _ | fields => .error .form

/-- Checks one directive. -/
def checkDirective (written : List Char) : Except Fault Unit := do
  (← Reading.nothing.run written 0 (trimmed written)).finish written

/-- Checks the directives of a filter in their order. Empty ones do not count. -/
def check (text : String) : Except Fault Unit :=
  ((text.toList.splitOn ',').filter fun written => !written.isEmpty).forM checkDirective

/-- The reasons for a fault, from the outermost inward. A severed character has none. -/
def Fault.reasons : Fault → List String
  | .level =>
    let listed := String.intercalate ", " (levels.map Quoted.text)
    let reason := s!"error parsing level filter: expected one of {listed}, or a number 0-5"
    [reason, reason]
  | .form => ["invalid filter directive"]
  | .pattern text refusal =>
    let causes := refusal.causes text
    ("invalid field filter: " ++ causes.headD "") :: causes
  | .severed => []

/-- The causes of the error for a filter with a fault. -/
def Fault.causes (text : String) (fault : Fault) : List String :=
  s!"invalid --log-level {Quoted.text text}" :: fault.reasons

end KeyText.LogFilter
