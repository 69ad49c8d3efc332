import KeyText.Base58.Error
import KeyText.Decimal.Layout

/-!
# What a repair answers

The candidate that was found and how it differs from the text, or why none was found; and the progress on the way. A checksum
of four bytes accepts a wrong candidate once in 2^32 times, so every answer tells how many candidates were tried, and the
risk that goes with that number.
-/

namespace KeyText.Repair

/-- How many wrong candidates out of so many a checksum accepts on average, one in 2^32. -/
def falsePositives (tried : Nat) : Float :=
  Float.ofNat tried / 4294967296.0

/-- What a search found. -/
structure Repaired where
  /-- The text as it was given. -/
  given : String
  /-- The candidate whose checksum matches. -/
  fixed : String
  /-- A mark under every changed character, and spaces. -/
  diff : String
  /-- What the candidate decodes to, without the checksum. -/
  payload : List UInt8
  /-- How many characters differ. -/
  changes : Nat
  /-- How many candidates were tried, the found one included. -/
  tried : Nat
  deriving DecidableEq, Repr

/-- The mark under a changed character. -/
def marker : Char := '^'

/-- The positions under which a difference has a mark. -/
def Repaired.changedPositions (r : Repaired) : List Nat :=
  r.diff.toList.zipIdx.filterMap fun (c, i) => if c = marker then some i else none

/-- The risk that the candidate found is wrong. -/
def Repaired.falsePositives (r : Repaired) : Float :=
  Repair.falsePositives r.tried

/-- Why a search found nothing. Where candidates were tried, their number and their risk come with the reason. -/
inductive Failure where
  /-- A candidate could not be decoded for another reason than a wrong character or checksum. -/
  | codec (error : Base58.CodecError)
  /-- No candidate within the greatest number of changes matched. -/
  | exhausted (maxChanges tried : Nat) (risk : Float)
  /-- The greatest number of candidates was tried. -/
  | budgetExhausted (limit tried : Nat) (risk : Float)
  /-- The time was over. -/
  | deadlineExceeded (tried : Nat) (risk : Float)
  /-- A position lay outside the text, or a digit had no symbol. -/
  | outOfRange

/-- How many candidates were tried before a failure. -/
def Failure.tried : Failure → Nat
  | .exhausted _ tried _ | .budgetExhausted _ tried _ | .deadlineExceeded tried _ => tried
  | .codec _ | .outOfRange => 0

/-- The risk that came with a failure. -/
def Failure.risk : Failure → Float
  | .exhausted _ _ risk | .budgetExhausted _ _ risk | .deadlineExceeded _ risk => risk
  | .codec _ | .outOfRange => 0

/-- Whether a failure says that the text is wrong and not merely that the search was cut short. -/
def Failure.isChecksumMismatch : Failure → Bool
  | .exhausted .. | .codec .checksumMismatch => true
  | _ => false

/-- The wording of a failure. -/
def Failure.message : Failure → String
  | .codec error => error.message
  | .exhausted maxChanges tried risk =>
    s!"checksum mismatch: no valid candidate within {maxChanges} changed character(s) ({tried} candidates tried, " ++
      s!"false positive estimate {Decimal.exponential 3 risk})"
  | .budgetExhausted limit .. => s!"repair budget of {limit} candidates exhausted"
  | .deadlineExceeded tried _ => s!"repair deadline exceeded after {tried} candidates"
  | .outOfRange => "candidate outside the text or the alphabet"

/-- How many changes the candidates have that come next, and how many candidates were tried before them. -/
structure Progress where
  changes : Nat
  tried : Nat
  deriving DecidableEq, Repr

/-- The answer of a search, and the progress it reported, in order. -/
structure Outcome where
  answer : Except Failure Repaired
  reports : Array Progress

end KeyText.Repair
