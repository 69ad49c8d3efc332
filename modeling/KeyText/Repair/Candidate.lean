import KeyText.Base58.Codec
import KeyText.Repair.Answer
import KeyText.Repair.Limits

/-!
# Candidates of a repair

A candidate is the text with symbols written over some of its positions. Positions count characters, so a text is worked on
as one byte for each of its characters. The search has one working copy of the text: the symbols for a candidate are written
over those of the candidate before it, and the characters of the text come back only when the search leaves a choice of
positions. All candidates are decoded into one buffer with room for the longest.
-/

namespace KeyText.Repair

/-- What a search works on: the text, its characters as one byte each, the checksum, and the limits. -/
structure Problem where
  given : String
  characters : List UInt8
  checksum : Checksum
  limits : Limits

/-- The byte for a character outside ASCII, which is no symbol. -/
def nonAscii : UInt8 := 0xFF

/-- The characters of a text as one byte each, so that positions count characters. -/
def characters (text : String) : List UInt8 :=
  text.toList.map fun c => if c.toNat < 128 then UInt8.ofNat c.toNat else nonAscii

/-- What a search carries from one candidate to the next: the working copy of the text, how many candidates it tried, the
buffer that they are decoded into, and the progress it reported. -/
structure Cursor where
  working : List UInt8
  tried : Nat
  scratch : List UInt8
  reports : Array Progress

/-- Whether a search goes on, or stops with an answer. -/
inductive Step where
  | more (cursor : Cursor)
  | stop (cursor : Cursor) (answer : Except Failure Repaired)

/-- Writes the symbols for digits over positions of a text. -/
def overwrite? : List UInt8 → List (Nat × UInt8) → Option (List UInt8)
  | text, [] => some text
  | text, (position, digit) :: changes =>
    match Base58.symbol? digit with
    | some symbol => if position < text.length then overwrite? (text.set position symbol) changes else none
    | none => none

/-- Writes the characters of a text back over positions of a working copy. -/
def restore? (text : List UInt8) : List UInt8 → List Nat → Option (List UInt8)
  | working, [] => some working
  | working, position :: positions =>
    match text[position]? with
    | some character =>
      if position < working.length then restore? text (working.set position character) positions else none
    | none => none

/-- What is reported of a candidate whose checksum matches. -/
def Problem.repaired (problem : Problem) (candidate payload : List UInt8) (tried : Nat) : Repaired :=
  let diff := problem.characters.zipWith (fun before after => if before = after then ' ' else marker) candidate
  { given := problem.given
    fixed := Base58.asciiText candidate
    diff := String.ofList diff
    payload
    changes := diff.count marker
    tried }

/-- Decodes the candidate in the working copy. A wrong character or checksum is no reason to stop. -/
def Problem.decodeCandidate (problem : Problem) (cursor : Cursor) : Step :=
  let (answer, scratch) := Base58.Buffer.decodeChecked cursor.working problem.checksum cursor.scratch
  let cursor := { cursor with tried := cursor.tried + 1, scratch }
  match answer with
  | .ok length =>
    if length ≤ scratch.length then .stop cursor (.ok (problem.repaired cursor.working (scratch.take length) cursor.tried))
    else .stop cursor (.error .outOfRange)
  | .error (.bufferTooSmall required capacity) => .stop cursor (.error (.codec (.bufferTooSmall required capacity)))
  | .error (.invalidCharacter ..) | .error .checksumMismatch => .more cursor

/-- Tries the candidate with the symbols for digits on positions, unless as many as allowed were tried before it. -/
def Problem.tryCandidate (problem : Problem) (positions : List Nat) (digits : List UInt8) (cursor : Cursor) : Step :=
  match problem.limits.spent? cursor.tried with
  | some most => .stop cursor (.error (.budgetExhausted most cursor.tried (falsePositives cursor.tried)))
  | none =>
    match overwrite? cursor.working (positions.zip digits) with
    | some working => problem.decodeCandidate { cursor with working }
    | none => .stop cursor (.error .outOfRange)

/-- Leaves a choice of positions: the working copy is the text again. -/
def Problem.leavePositions (problem : Problem) (positions : List Nat) (cursor : Cursor) : Step :=
  match restore? problem.characters cursor.working positions with
  | some working => .more { cursor with working }
  | none => .stop cursor (.error .outOfRange)

/-- The answer when the time is over. -/
def Cursor.late (cursor : Cursor) : Step :=
  .stop cursor (.error (.deadlineExceeded cursor.tried (falsePositives cursor.tried)))

end KeyText.Repair
