import KeyText.Network
import Mathlib.Data.List.Nodup

/-!
# Looking networks up

A look-up answers with the first network of the table that has a property, and fails only if there is none. No two networks
have the same name, so there is nothing to choose between when they are looked up by name (`byName_eq_ok_iff`). Versions are
shared.
-/

namespace KeyText.Network

variable {n : Network} {holds : Network → Bool} {error : LookupError}

/-- A look-up answers with the first network that has the property. -/
theorem first_eq_ok_iff : first holds error = .ok n ↔ table.find? holds = some n := by
  unfold first
  cases table.find? holds with
  | none => simp
  | some m => simp

/-- A look-up for a property that some network has does not fail. -/
theorem exists_first (hmem : n ∈ table) (hn : holds n) : ∃ m, table.find? holds = some m := by
  rw [← Option.isSome_iff_exists, List.find?_isSome]
  exact ⟨n, hmem, hn⟩

/-- Two texts are the same up to the cases of their letters when their characters are. -/
theorem toLower_eq_iff {s t : String} :
    s.toLower = t.toLower ↔ s.toList.map Char.toLower = t.toList.map Char.toLower := by
  change s.map Char.toLower = t.map Char.toLower ↔ _
  rw [← String.toList_inj, String.toList_map, String.toList_map]

/-- The names of the networks differ in more than the cases of their letters. -/
theorem nodup_names : (table.map (·.name.toLower)).Nodup := by
  decide +kernel

/-- The network with a name, in any mix of cases, is the one that is found. -/
theorem byName_eq_ok_iff {name : String} : byName name = .ok n ↔ n ∈ table ∧ n.name.toLower = name.toLower := by
  rw [byName, first_eq_ok_iff]
  constructor
  · intro h
    exact ⟨List.mem_of_find?_eq_some h, by simpa using List.find?_some h⟩
  · rintro ⟨hmem, hname⟩
    obtain ⟨m, hm⟩ := @exists_first n (fun m => m.name.toLower == name.toLower) hmem (by simpa using hname)
    have hsame : m.name.toLower = n.name.toLower := by
      rw [hname]
      simpa using List.find?_some hm
    rw [hm, List.inj_on_of_nodup_map nodup_names (List.mem_of_find?_eq_some hm) hmem hsame]

end KeyText.Network
