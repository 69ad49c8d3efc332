import KeyText.Digest.Published
import KeyText.Proofs.Command.Answers

/-!
# Encoding and decoding undo each other

The answers of each of the two commands are inputs of the other, for a text holds no white space, and hexadecimal spells what it
was written for. So either gives back what the other was given.
-/

namespace KeyText.Command

/-- The two commands undo each other, with a checksum of any kind or without. Whatever hexadecimal spells a byte string, in
either case, with white space or a mark, decoding the answer to it gives the byte string back, in lower case and with its
length, also where there is white space around the text. And whatever input decodes, encoding its payload answers with that
input, without the white space around it. -/
theorem decode_undoes_encode [Digests] (check : Bool) (kind : ChecksumKind) :
    (∀ files source bytes, Source.readBytes files source .hex = .ok bytes ↔
      ∃ text, source.Holds files text ∧ Spells text bytes) ∧
    (∀ files source bytes, source.readBytes files .hex = .ok bytes →
      ∃ r, encode files { source, check, kind } = .ok r ∧
        ∀ files' source' text, Pads r.encoded text → Source.Holds files' source' text →
          decode files' { source := source', check, kind } = .ok ⟨Hex.encode bytes, bytes.length, named check kind⟩) ∧
    ∀ files source r, decode files { source, check, kind } = .ok r →
      ∃ text, source.Holds files text ∧
        ∀ files' source', Source.Holds files' source' r.payload →
          encode files' { source := source', check, kind } = .ok ⟨String.ofList (trimmed text.toList), named check kind⟩ := by
  refine ⟨fun files source bytes => Source.readBytes_eq_ok_iff, ?_, ?_⟩
  · intro files source bytes hbytes
    refine ⟨_, encode_eq_ok_iff.mpr ⟨bytes, hbytes, rfl⟩, ?_⟩
    intro files' source' text hpads hholds
    exact decode_eq_ok_iff.mpr ⟨bytes, hholds.readText_eq hpads not_isBlank_of_mem_written, rfl⟩
  · intro files source r hr
    obtain ⟨bytes, htext, rfl⟩ := decode_eq_ok_iff.mp hr
    obtain ⟨text, hholds, htrimmed⟩ := Source.readText_eq_ok_iff.mp htext
    refine ⟨text, hholds, ?_⟩
    intro files' source' hholds'
    refine encode_eq_ok_iff.mpr ⟨bytes, Source.readBytes_eq_ok_iff.mpr ⟨_, hholds', spells_encode bytes⟩, ?_⟩
    rw [htrimmed]

/-- Without a checksum: what `0X00 fF` encodes to decodes to `00ff`, and the payload of `3yQ` encodes to `3yQ`. -/
theorem decode_undoes_encode_plain :
    (∃ r, encode (fun _ => .ok []) { source := { value? := some "0X00 fF" } } = .ok r ∧
      decode (fun _ => .ok []) { source := { value? := some ("\t" ++ r.encoded ++ "\n") } } = .ok ⟨"00ff", 2, none⟩) ∧
    decode (fun _ => .ok []) { source := { value? := some "  3yQ\n" } } = .ok ⟨"270f", 2, none⟩ ∧
    encode (fun _ => .ok []) { source := { value? := some "270f" } } = .ok ⟨"3yQ", none⟩ := by
  have hspelling : Source.readBytes (fun _ => .ok []) { value? := some "0X00 fF" } .hex = .ok [0, 255] := by
    decide +kernel
  have hdecoded : decode (fun _ => .ok []) { source := { value? := some "  3yQ\n" } } = .ok ⟨"270f", 2, none⟩ := by
    exact decode_eq_ok_iff.mpr ⟨[0x27, 0x0f], by decide +kernel, by decide +kernel⟩
  obtain ⟨-, hback, hforth⟩ := decode_undoes_encode false default
  obtain ⟨r, hr, hpadded⟩ := hback _ _ _ hspelling
  obtain ⟨text, hholds, hencoded⟩ := hforth _ _ _ hdecoded
  refine ⟨⟨r, hr, ?_⟩, hdecoded, ?_⟩
  · exact hpadded _ _ _ ⟨['\t'], ['\n'], by simp [isBlank], by simp [isBlank], by simp⟩ rfl
  · obtain rfl : "  3yQ\n" = text := Utf8.encode_inj.mp (Except.ok.inj hholds)
    exact hencoded _ _ rfl

end KeyText.Command
