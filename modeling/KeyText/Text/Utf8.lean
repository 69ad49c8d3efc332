/-!
# UTF-8

The byte form of text. Writing is total: every string has one list of bytes. Reading stops at the first byte that no
well-formed character begins at, and says where that is and how many bytes belong to the damage, so that a message can
point at it.
-/

namespace KeyText.Utf8

/-- The bytes of a string. -/
def encode (s : String) : List UInt8 :=
  s.toList.flatMap String.utf8EncodeChar

/-- A byte that continues a character, `10xxxxxx`. -/
def isContinuation (b : UInt8) : Bool :=
  0x80 ≤ b && b ≤ 0xBF

/-- What the first byte of a character of several bytes settles: how many bytes follow, in which range the first of them
lies, and the bits of the code point that the lead itself carries. The range shuts out overlong forms, surrogates and code
points past the last. -/
structure Lead where
  trailing : Nat
  low : UInt8
  high : UInt8
  bits : Nat

/-- The lead that a byte is, if it is one. -/
def lead? (b : UInt8) : Option Lead :=
  if 0xC2 ≤ b ∧ b ≤ 0xDF then some ⟨1, 0x80, 0xBF, b.toNat % 32⟩
  else if b = 0xE0 then some ⟨2, 0xA0, 0xBF, 0⟩
  else if b = 0xED then some ⟨2, 0x80, 0x9F, 13⟩
  else if 0xE1 ≤ b ∧ b ≤ 0xEF then some ⟨2, 0x80, 0xBF, b.toNat % 16⟩
  else if b = 0xF0 then some ⟨3, 0x90, 0xBF, 0⟩
  else if 0xF1 ≤ b ∧ b ≤ 0xF3 then some ⟨3, 0x80, 0xBF, b.toNat % 8⟩
  else if b = 0xF4 then some ⟨3, 0x80, 0x8F, 4⟩
  else none

/-- What stands at the head of a byte string that is read as text. -/
inductive Head where
  /-- A whole character, and the bytes behind it. -/
  | char (c : Char) (rest : List UInt8)
  /-- So many bytes that begin a character and do not end one. -/
  | malformed (length : Nat)
  /-- The bytes run out inside a character. -/
  | truncated
  deriving DecidableEq

/-- Reads the bytes still missing from a character whose earlier bytes gave the value; `seen` counts the earlier bytes. -/
def continuation : (missing value seen : Nat) → List UInt8 → Head
  | 0, value, _, rest => .char (Char.ofNat value) rest
  | _ + 1, _, _, [] => .truncated
  | missing + 1, value, seen, b :: rest =>
    if isContinuation b then continuation missing (value * 64 + b.toNat % 64) (seen + 1) rest
    else .malformed seen

/-- Reads one character from a nonempty byte string. A second byte out of its lead's range leaves a damage of one byte;
later bytes need only continue the character. -/
def head (b : UInt8) (rest : List UInt8) : Head :=
  if b < 0x80 then .char (Char.ofNat b.toNat) rest
  else
    match lead? b with
    | none => .malformed 1
    | some lead =>
      match rest with
      | [] => .truncated
      | b₁ :: rest =>
        if lead.low ≤ b₁ ∧ b₁ ≤ lead.high then
          continuation (lead.trailing - 1) (lead.bits * 64 + b₁.toNat % 64) 2 rest
        else .malformed 1

/-- Reading the missing bytes leaves no more bytes than there were. -/
theorem length_le_of_continuation {missing value seen : Nat} {bs rest : List UInt8} {c : Char}
    (h : continuation missing value seen bs = .char c rest) : rest.length ≤ bs.length := by
  induction missing generalizing value seen bs with
  | zero =>
    simp only [continuation, Head.char.injEq] at h
    exact h.2 ▸ Nat.le_refl _
  | succ missing ih =>
    cases bs with
    | nil => simp [continuation] at h
    | cons b bs =>
      simp only [continuation] at h
      split at h
      · exact Nat.le_succ_of_le (ih h)
      · cases h

/-- Reading a character uses up at least its first byte. -/
theorem length_le_of_head {b : UInt8} {bs rest : List UInt8} {c : Char} (h : head b bs = .char c rest) :
    rest.length ≤ bs.length := by
  unfold head at h
  split at h
  · simp only [Head.char.injEq] at h
    exact h.2 ▸ Nat.le_refl _
  · split at h
    · cases h
    · split at h
      · cases h
      · split at h
        · exact Nat.le_succ_of_le (length_le_of_continuation h)
        · cases h

/-- Where reading stopped: the number of bytes before the fault, all of them sound, and the length of the damage, or nothing
when the bytes ran out inside a character. -/
structure Fault where
  position : Nat
  length? : Option Nat
  deriving DecidableEq, Repr

/-- The wording of a fault. -/
def Fault.message : Fault → String
  | ⟨position, some n⟩ => s!"invalid utf-8 sequence of {n} bytes from index {position}"
  | ⟨position, none⟩ => s!"incomplete utf-8 byte sequence from index {position}"

/-- Reads characters to the end of the bytes, or to the first fault; positions count from the given one. -/
def decodeFrom (position : Nat) : List UInt8 → Except Fault (List Char)
  | [] => .ok []
  | b :: bs =>
    match _h : head b bs with
    | .char c rest => (decodeFrom (position + c.utf8Size) rest).map (c :: ·)
    | .malformed n => .error ⟨position, some n⟩
    | .truncated => .error ⟨position, none⟩
termination_by bs => bs.length
decreasing_by
  have := length_le_of_head _h
  simp only [List.length_cons]
  omega

/-- Reads a byte string as text. -/
def decode (bytes : List UInt8) : Except Fault String :=
  (decodeFrom 0 bytes).map String.ofList

/-- The character that stands for bytes that are none, U+FFFD. -/
def replacement : Char := '\ufffd'

/-- The character at the head of a byte string, or the replacement character when no well-formed one stands there. -/
def charAtHead : List UInt8 → Char
  | [] => replacement
  | b :: bs =>
    match head b bs with
    | .char c _ => c
    | _ => replacement

end KeyText.Utf8
