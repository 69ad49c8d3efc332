import KeyText.Text.Utf8
import KeyText.Text.Quoted

/-!
# Hexadecimal

Bytes written as pairs of hexadecimal digits, the high half first. Writing uses lower case; reading takes either case and
counts positions in the UTF-8 bytes of the digits, since a byte is what it looks at.
-/

namespace KeyText.Hex

/-- The digit for a value below 16. -/
def digit (n : Nat) : Char :=
  if n < 10 then Char.ofNat (0x30 + n) else Char.ofNat (0x61 + (n - 10))

/-- The two digits of a byte. -/
def pair (b : UInt8) : List Char :=
  [digit (b.toNat / 16), digit (b.toNat % 16)]

/-- The digits of a byte string. -/
def digits (bytes : List UInt8) : List Char :=
  bytes.flatMap pair

/-- A byte string in hexadecimal. -/
def encode (bytes : List UInt8) : String :=
  String.ofList (digits bytes)

/-- The value of a digit, given as an ASCII byte. -/
def value? (b : UInt8) : Option UInt8 :=
  if 0x30 ≤ b ∧ b ≤ 0x39 then some (b - 0x30)
  else if 0x61 ≤ b ∧ b ≤ 0x66 then some (b - 0x61 + 10)
  else if 0x41 ≤ b ∧ b ≤ 0x46 then some (b - 0x41 + 10)
  else none

/-- Why a text is no hexadecimal. -/
inductive Fault where
  /-- The digits do not pair up. -/
  | oddLength
  /-- A byte that is no digit, and where it stands. -/
  | badDigit (byte : UInt8) (position : Nat)
  deriving DecidableEq, Repr

/-- The wording of a fault; a bad byte is shown as the character of its own number. -/
def Fault.message : Fault → String
  | .oddLength => "Odd number of digits"
  | .badDigit byte position => s!"Invalid character {Quoted.char (Char.ofNat byte.toNat)} at position {position}"

/-- Reads pairs of digits; positions count from the given one. -/
def pairs (position : Nat) : List UInt8 → Except Fault (List UInt8)
  | high :: low :: rest =>
    match value? high, value? low with
    | some h, some l => (pairs (position + 2) rest).map ((h * 16 + l) :: ·)
    | none, _ => .error (.badDigit high position)
    | _, none => .error (.badDigit low (position + 1))
  | _ => .ok []

/-- Reads a text of hexadecimal digits. An odd number of bytes is reported before any bad digit. -/
def decode (text : String) : Except Fault (List UInt8) :=
  let bytes := Utf8.encode text
  if bytes.length % 2 = 1 then .error .oddLength else pairs 0 bytes

end KeyText.Hex
