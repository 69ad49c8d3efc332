import KeyText.Proofs.Base58.Buffer

/-!
# Calls on one buffer

A buffer that serves one call after the other holds what earlier calls left in it. A call neither sees that nor touches more
than it must: what it answers is told by what it is asked for and by its capacity (`Call.answer_runWithin`), and what it
leaves of the buffer by its answer (`Call.leaves_runWithin`). So no run of calls can have an effect on the answers of a later
one (`runAll_spec`). Both follow from one description of a call (`Call.runWithin_eq`), in which what the buffer holds appears
only behind the bytes that are written.
-/

namespace KeyText.Base58.Buffer

/-! ## One call -/

/-- The bytes that a call has to write: the symbols of a numeral, or what a text decodes to, with its checksum if it has
one. -/
def Call.output : Call → Except CodecError (List UInt8)
  | .encode bytes => .ok (symbols bytes)
  | .encodeChecked payload checksum => .ok (symbols (checksum.append payload))
  | .decode text | .decodeChecked text _ => Base58.decode text

/-- What a call answers once its bytes are written: their number, or that of the payload if they have to end with its
checksum. -/
def Call.verdict : Call → List UInt8 → Except CodecError Nat
  | .decodeChecked _ checksum, bytes =>
    match checksum.strip? bytes with
    | some payload => .ok payload.length
    | none => .error .checksumMismatch
  | _, bytes => .ok bytes.length

/-- A text that does not decode has a wrong character. -/
theorem exists_invalidCharacter {text : List UInt8} {fault : CodecError} (h : Base58.decode text = .error fault) :
    ∃ position character, fault = .invalidCharacter position character := by
  rw [decode_eq] at h
  cases hread : readSymbols text with
  | ok bytes =>
    rw [hread] at h
    cases h
  | error position =>
    rw [hread] at h
    cases h
    exact ⟨_, _, rfl⟩

/-- A call that has nothing to write was given a wrong character. -/
theorem Call.exists_invalidCharacter {call : Call} {fault : CodecError} (h : call.output = .error fault) :
    ∃ position character, fault = .invalidCharacter position character := by
  cases call with
  | encode bytes => cases h
  | encodeChecked payload checksum => cases h
  | decode text => exact Buffer.exists_invalidCharacter h
  | decodeChecked text checksum => exact Buffer.exists_invalidCharacter h

/-- A call writes its bytes if the buffer has room for them, and else leaves the buffer as it is. -/
theorem Call.run_eq (call : Call) (buffer : List UInt8) :
    call.run buffer = match call.output with
      | .error fault => (.error fault, buffer)
      | .ok bytes =>
        if bytes.length ≤ buffer.length then (call.verdict bytes, bytes ++ buffer.drop bytes.length)
        else (.error (.bufferTooSmall bytes.length buffer.length), buffer) := by
  cases call with
  | encode bytes => rfl
  | encodeChecked payload checksum => rfl
  | decode text =>
    rw [run, Buffer.decode, output, decode_eq]
    cases readSymbols text with
    | ok bytes => rfl
    | error position => rfl
  | decodeChecked text checksum =>
    rw [run, Buffer.decodeChecked_eq, output, decode_eq]
    cases readSymbols text with
    | ok bytes => rfl
    | error position => rfl

/-- What stands behind some bytes of the first part of a buffer, and then the rest of it, is what stands behind them. -/
theorem drop_take_append_drop {buffer : List UInt8} {written capacity : Nat} (h : written ≤ capacity) :
    (buffer.take capacity).drop written ++ buffer.drop capacity = buffer.drop written := by
  obtain ⟨more, rfl⟩ := Nat.exists_eq_add_of_le h
  rw [List.drop_take, Nat.add_sub_cancel_left, ← List.drop_drop, List.take_append_drop]

/-- A call on the first bytes of a buffer writes its bytes if there is room for them, and else leaves the buffer as it is. -/
theorem Call.runWithin_eq (call : Call) (capacity : Nat) (buffer : List UInt8) :
    call.runWithin capacity buffer = match call.output with
      | .error fault => (.error fault, buffer)
      | .ok bytes =>
        if bytes.length ≤ min capacity buffer.length then (call.verdict bytes, bytes ++ buffer.drop bytes.length)
        else (.error (.bufferTooSmall bytes.length (min capacity buffer.length)), buffer) := by
  rw [runWithin, run_eq, List.length_take]
  cases call.output with
  | error fault =>
    dsimp only
    rw [List.take_append_drop]
  | ok bytes =>
    dsimp only
    by_cases hroom : bytes.length ≤ min capacity buffer.length
    · rw [if_pos hroom, if_pos hroom]
      dsimp only
      rw [List.append_assoc, drop_take_append_drop (Nat.le_trans hroom (Nat.min_le_left _ _))]
    · rw [if_neg hroom, if_neg hroom]
      dsimp only
      rw [List.take_append_drop]

/-! ## What a call answers -/

/-- What a call answers for a capacity: its answer for a buffer of that size that holds zeros. -/
def Call.answer (call : Call) (capacity : Nat) : Except CodecError Nat :=
  (call.run (List.replicate capacity 0)).1

/-- A call answers the same whatever the buffer holds. -/
theorem Call.answer_runWithin (call : Call) (capacity : Nat) (buffer : List UInt8) :
    (call.runWithin capacity buffer).1 = call.answer (min capacity buffer.length) := by
  rw [answer, run_eq, runWithin_eq, List.length_replicate]
  cases call.output with
  | error fault => rfl
  | ok bytes =>
    dsimp only
    by_cases hroom : bytes.length ≤ min capacity buffer.length
    · rw [if_pos hroom, if_pos hroom]
    · rw [if_neg hroom, if_neg hroom]

/-! ## What a call leaves of a buffer -/

/-- What a call leaves of a buffer, by its answer. All bytes stay after a wrong character or a lack of room. Behind the bytes
whose number is answered nothing changes; behind a payload comes its checksum, and behind that nothing changes. A failed
checksum leaves the decoded bytes, and what is behind them. -/
def Call.Leaves (call : Call) (before : List UInt8) (answer : Except CodecError Nat) (after : List UInt8) : Prop :=
  after.length = before.length ∧
    match answer, call with
    | .error (.invalidCharacter _ _), _ | .error (.bufferTooSmall _ _), _ => after = before
    | .error .checksumMismatch, .decodeChecked text _ =>
      ∃ bytes, Base58.decode text = .ok bytes ∧ after = bytes ++ before.drop bytes.length
    | .error .checksumMismatch, _ => False
    | .ok length, .decodeChecked text checksum =>
      ∃ payload, Base58.decodeChecked text checksum = .ok payload ∧ payload.length = length ∧
        after = payload ++ checksum.suffix payload ++ before.drop (length + 4)
    | .ok length, _ => after.drop length = before.drop length

/-- A call that writes its bytes leaves the buffer as its verdict tells. -/
theorem Call.leaves_verdict {call : Call} {bytes buffer : List UInt8} (houtput : call.output = .ok bytes)
    (hroom : bytes.length ≤ buffer.length) :
    call.Leaves buffer (call.verdict bytes) (bytes ++ buffer.drop bytes.length) := by
  refine ⟨length_append_drop hroom, ?_⟩
  cases call with
  | encode input => exact List.drop_left
  | encodeChecked payload checksum => exact List.drop_left
  | decode text => exact List.drop_left
  | decodeChecked text checksum =>
    dsimp only [verdict]
    cases hstrip : checksum.strip? bytes with
    | none => exact ⟨bytes, houtput, rfl⟩
    | some payload =>
      obtain rfl := (checksum.strip?_eq_some_iff bytes payload).mp hstrip
      have hdecode : Base58.decodeChecked text checksum = .ok payload :=
        decodeChecked_eq_ok_iff_readSymbols.mpr (decode_eq_ok_iff_readSymbols.mp houtput)
      have hlength : (checksum.append payload).length = payload.length + 4 := by
        rw [Checksum.append, List.length_append, Checksum.length_suffix]
        rfl
      refine ⟨payload, hdecode, rfl, ?_⟩
      rw [hlength]
      rfl

/-- A call leaves of a buffer what its answer tells. -/
theorem Call.leaves_runWithin (call : Call) (capacity : Nat) (buffer : List UInt8) :
    call.Leaves buffer (call.runWithin capacity buffer).1 (call.runWithin capacity buffer).2 := by
  rw [runWithin_eq]
  cases houtput : call.output with
  | error fault =>
    obtain ⟨position, character, rfl⟩ := exists_invalidCharacter houtput
    exact ⟨rfl, rfl⟩
  | ok bytes =>
    dsimp only
    by_cases hroom : bytes.length ≤ min capacity buffer.length
    · rw [if_pos hroom]
      exact leaves_verdict houtput (Nat.le_trans hroom (Nat.min_le_right _ _))
    · rw [if_neg hroom]
      exact ⟨rfl, rfl⟩

/-! ## Runs of calls -/

/-- A run performs its first call, and then the others on what that one leaves. -/
theorem runAll_cons (call : Call) (capacity : Nat) (calls : List (Call × Nat)) (buffer : List UInt8) :
    runAll ((call, capacity) :: calls) buffer =
      ((call.runWithin capacity buffer).1 :: (runAll calls (call.runWithin capacity buffer).2).1,
        (runAll calls (call.runWithin capacity buffer).2).2) := rfl

/-- The calls of two runs, one run after the other. -/
theorem runAll_append (earlier later : List (Call × Nat)) (buffer : List UInt8) :
    runAll (earlier ++ later) buffer =
      ((runAll earlier buffer).1 ++ (runAll later (runAll earlier buffer).2).1,
        (runAll later (runAll earlier buffer).2).2) := by
  induction earlier generalizing buffer with
  | nil => rfl
  | cons call earlier ih =>
    obtain ⟨call, capacity⟩ := call
    rw [List.cons_append, runAll_cons, runAll_cons, ih, List.cons_append]

/-- A run of calls keeps the size of the buffer. -/
@[simp] theorem length_runAll (calls : List (Call × Nat)) (buffer : List UInt8) :
    (runAll calls buffer).2.length = buffer.length := by
  induction calls generalizing buffer with
  | nil => rfl
  | cons call calls ih =>
    obtain ⟨call, capacity⟩ := call
    rw [runAll_cons, ih, (call.leaves_runWithin capacity buffer).1]

/-- The answers of a run are those that its calls give on their own. -/
theorem runAll_answers (calls : List (Call × Nat)) (buffer : List UInt8) :
    (runAll calls buffer).1 = calls.map fun call => call.1.answer (min call.2 buffer.length) := by
  induction calls generalizing buffer with
  | nil => rfl
  | cons call calls ih =>
    obtain ⟨call, capacity⟩ := call
    rw [runAll_cons, List.map_cons, ih, call.answer_runWithin, (call.leaves_runWithin capacity buffer).1]

/-- In every run of calls on one buffer, each within its own capacity, what a call answers is told by the call and its
capacity alone; and each call, from the buffer that the earlier ones leave, leaves what its answer tells. -/
theorem runAll_spec (calls : List (Call × Nat)) (buffer : List UInt8) :
    (runAll calls buffer).1 = calls.map (fun call => call.1.answer (min call.2 buffer.length)) ∧
      ∀ earlier call capacity later, calls = earlier ++ (call, capacity) :: later →
        call.Leaves (runAll earlier buffer).2 (call.answer (min capacity buffer.length))
          (runAll (earlier ++ [(call, capacity)]) buffer).2 := by
  refine ⟨runAll_answers calls buffer, ?_⟩
  rintro earlier call capacity later -
  rw [runAll_append, ← length_runAll earlier buffer, ← call.answer_runWithin]
  exact call.leaves_runWithin capacity _

/-- A text of six symbols whose checksum fails, decoded behind an encoding in the same buffer: its five bytes stand over the
two symbols, and the rest of the buffer is as it was. -/
theorem runAll_spec_failed_checksum :
    let earlier := [(Call.encode [0, 1], 8)]
    let call := Call.decodeChecked [122, 122, 122, 122, 122, 122] ⟨fun _ => Vector.replicate 32 0⟩
    let buffer : List UInt8 := [7, 7, 7, 7, 7, 7, 7, 7]
    earlier ++ [(call, 6)] = earlier ++ (call, 6) :: [] ∧
      (runAll (earlier ++ [(call, 6)]) buffer).1 = [.ok 2, .error .checksumMismatch] ∧
      call.Leaves (runAll earlier buffer).2 (call.answer (min 6 buffer.length)) (runAll (earlier ++ [(call, 6)]) buffer).2 ∧
      (runAll earlier buffer).2 = [49, 50, 7, 7, 7, 7, 7, 7] ∧
      (runAll (earlier ++ [(call, 6)]) buffer).2 = [8, 221, 18, 38, 63, 7, 7, 7] := by
  intro earlier call buffer
  obtain ⟨hanswers, hleaves⟩ := runAll_spec (earlier ++ [(call, 6)]) buffer
  exact ⟨rfl, hanswers.trans (by decide +kernel), hleaves earlier call 6 [] rfl, by decide +kernel, by decide +kernel⟩

end KeyText.Base58.Buffer
