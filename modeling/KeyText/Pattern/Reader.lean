import KeyText.Pattern.Bracket
import KeyText.Pattern.Group

/-!
# Reading patterns

A pattern is read from left to right, and the first fault ends the reading. What has been read of a group stays open until
its closing parenthesis.
-/

namespace KeyText.Pattern

/-- What has been read of a group, or of the whole pattern: where the branch begins that is being read, its parts, the last
one first, and the branches before it, the last one first, with the place where they begin. -/
structure Level where
  start : Place
  parts : List Tree := []
  earlier? : Option (Place × List Tree) := none

/-- The branch that is being read, up to a place. -/
def Level.branch (level : Level) (stop : Place) : Tree :=
  match level.parts with
  | [] => .empty ⟨level.start, stop⟩
  | [part] => part
  | parts => .sequence ⟨level.start, stop⟩ parts.reverse

/-- All of a level, up to a place. -/
def Level.toTree (level : Level) (stop : Place) : Tree :=
  match level.earlier? with
  | none => level.branch stop
  | some (start, earlier) => .alternation ⟨start, stop⟩ (level.branch stop :: earlier).reverse

/-- Adds a part to the branch that is being read. -/
def Level.push (level : Level) (part : Tree) : Level :=
  { level with parts := part :: level.parts }

/-- An open group: its parenthesis and its flags, and what stands outside it, which may be loose. -/
structure OpenGroup where
  span : Span
  flags : List Char
  outside : Level
  loose : Bool

/-- How far a pattern has been read: the cursor, the innermost level, the open groups from the innermost outward, and the
names of groups with their spans. -/
structure State where
  cursor : Cursor
  level : Level
  groups : List OpenGroup := []
  names : List (String × Span) := []

/-- Opens a group. -/
def State.enter (s : State) (span : Span) (flags : List Char) (c : Cursor) : State :=
  { s with
    cursor := { c with loose := (flagState? flags 'x').getD c.loose }
    level := { start := c.place }
    groups := ⟨span, flags, s.level, c.loose⟩ :: s.groups }

/-- Reads an opening parenthesis. -/
def State.openGroup (s : State) : Except Fault State := do
  match ← readOpening s.names s.cursor with
  | (.flags span flags, c) =>
    return { s with
      cursor := { c with loose := (flagState? flags 'x').getD c.loose }
      level := s.level.push (.flags span flags) }
  | (.group span flags, c) => return s.enter span flags c
  | (.named span name nameSpan, c) => return { s.enter span [] c with names := (name, nameSpan) :: s.names }

/-- Reads a closing parenthesis. -/
def State.closeGroup (s : State) : Except Fault State :=
  match s.groups with
  | [] => fail .groupUnopened s.cursor.char
  | group :: groups =>
    let c := s.cursor.step
    let inner := s.level.toTree s.cursor.place
    .ok { s with
      cursor := { c with loose := group.loose }
      level := group.outside.push (.group (c.since group.span.start) group.flags inner)
      groups }

/-- Begins another branch. -/
def State.nextBranch (s : State) : State :=
  let place := s.cursor.place
  let (start, earlier) := s.level.earlier?.getD (s.level.start, [])
  let c := s.cursor.step
  { s with cursor := c, level := { start := c.place, earlier? := some (start, s.level.branch place :: earlier) } }

/-- The part that a repetition repeats, and the parts before it. Flags cannot be repeated. -/
def State.operand (s : State) : Except Fault (Tree × List Tree) :=
  match s.level.parts with
  | [] | .flags .. :: _ => fail .repetitionMissing s.cursor.here
  | part :: parts => .ok (part, parts)

/-- Reads the sign of a repetition, which a question mark behind it makes lazy. -/
def State.repeatPart (s : State) : Except Fault State := do
  let (part, parts) ← s.operand
  let sign := s.cursor.step
  let c := if sign.rest.head? = some '?' then sign.step else sign
  return { s with
    cursor := c
    level := { s.level with parts := .repetition (c.since part.span.start) part :: parts } }

/-- The fault of a count, whose brace the cursor is at: behind it there is no closing one. -/
def countFault (brace : Cursor) : Fault :=
  let first := brace.advance
  let (_, start) := first.take isBlank
  let (digits, stop) := start.take Char.isDigit
  let (_, behind) := stop.take isBlank
  let value := digits.foldl (fun n (x, _) => n * 10 + (x.toNat - '0'.toNat)) 0
  if behind.rest.isEmpty then { reason := .countUnclosed, span := behind.since brace.place }
  else if digits.isEmpty then { reason := .countEmpty, span := stop.since start.place }
  else if UInt32.size ≤ value then { reason := .countTooLarge, span := stop.since start.place }
  else { reason := .countUnclosed, span := behind.since brace.place }

/-- Reads an atom. -/
def readAtom (c : Cursor) (x : Char) : Except Fault (Atom × Cursor) :=
  match x with
  | '\\' => escape c
  | '.' => .ok (.dot c.char, c.step)
  | '^' | '$' => .ok (.anchor c.char, c.step)
  | x => .ok (.literal c.char x false, c.step)

/-- Reads a part whose first character follows the cursor. -/
def State.step (s : State) (x : Char) : Except Fault State :=
  match x with
  | '(' => s.openGroup
  | ')' => s.closeGroup
  | '|' => .ok s.nextBranch
  | '?' | '*' | '+' => s.repeatPart
  | '\x7b' => do
    let _ ← s.operand
    .error (countFault s.cursor)
  | '[' => do
    let (tree, c) ← readBracket s.cursor
    return { s with cursor := c, level := s.level.push tree }
  | x => do
    let (atom, c) ← readAtom s.cursor x
    return { s with cursor := c, level := s.level.push (.atom atom) }

/-- Reads parts to the end of the pattern, in so many rounds at most. -/
def State.run : (rounds : Nat) → State → Except Fault State
  | 0, s => .ok s
  | rounds + 1, s =>
    let s := { s with cursor := s.cursor.skip }
    match s.cursor.rest with
    | [] => .ok s
    | x :: _ => do (← s.step x).run rounds

/-- The pattern, when all of it is read. -/
def State.finish (s : State) : Except Fault Tree :=
  match s.groups with
  | [] => .ok (s.level.toTree s.cursor.place)
  | group :: _ => fail .groupUnclosed group.span

/-- Reads a pattern. Every round reads a character, so there are enough. -/
def read (text : List Char) : Except Fault Tree := do
  let cursor := Cursor.ofText text
  (← State.run text.length { cursor, level := { start := cursor.place } }).finish

end KeyText.Pattern
