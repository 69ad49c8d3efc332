import KeyText.Proofs.Repair.Candidates
import KeyText.Proofs.Repair.Refinement
import KeyText.Proofs.Repair.Reports

/-!
# A repair is the first accepted candidate

Without a deadline a search goes through the list of candidates, which does not depend on the checksum, and stops at the
first that is accepted (`search_eq_ok`); where none is, it has tried them all (`search_eq_exhausted`). A budget has no part in
either as long as it allows the candidates that are tried, and else stops the search (`search_eq_budgetExhausted`). The clock
has no part in it, and what is reported on the way is told by the boundaries of the search. `repair_first_accepted` tells how
a search without a budget ends.
-/

namespace KeyText.Repair

/-- Whether a text decodes under a checksum. -/
def accepts (checksum : Checksum) (text : String) : Bool :=
  (Base58.decodeChecked (Utf8.encode text) checksum).isOk

/-- A text is accepted where it decodes to some payload. -/
theorem accepts_iff {checksum : Checksum} {text : String} :
    accepts checksum text ↔ ∃ payload, Base58.decodeChecked (Utf8.encode text) checksum = .ok payload := by
  unfold accepts
  cases Base58.decodeChecked (Utf8.encode text) checksum with
  | ok payload => exact ⟨fun _ => ⟨payload, rfl⟩, fun _ => rfl⟩
  | error e =>
    constructor
    · intro h
      cases h
    · rintro ⟨payload, h⟩
      cases h

/-- All characters of an accepted text are symbols. -/
theorem mem_alphabet_of_accepts {checksum : Checksum} {text : String} (h : accepts checksum text) :
    ∀ c ∈ text.toList, c ∈ Base58.alphabet := by
  obtain ⟨payload, hdecode⟩ := accepts_iff.mp h
  exact mem_alphabet_of_decodeChecked hdecode

/-- An accepted text has room for a checksum. -/
theorem size_le_length_of_accepts {checksum : Checksum} {text : String} (h : accepts checksum text) :
    Checksum.size ≤ text.length := by
  obtain ⟨payload, hdecode⟩ := accepts_iff.mp h
  have hlength := Base58.length_le_of_decodeChecked hdecode
  rw [encode_eq_characters fun c hc => Base58.lt_of_mem_alphabet (mem_alphabet_of_decodeChecked hdecode c hc),
    length_characters] at hlength
  exact Nat.le_trans (Nat.le_add_left _ _) hlength

/-- Where none of some texts is accepted, none of them decodes as the bytes of its characters. -/
theorem decodeChecked_ne_of_mem_map {checksum : Checksum} {texts : List String}
    (h : ∀ text ∈ texts, ¬accepts checksum text) :
    ∀ c ∈ texts.map characters, ∀ payload, Base58.decodeChecked c checksum ≠ .ok payload := by
  intro c hc payload hdecode
  obtain ⟨text, htext, rfl⟩ := List.mem_map.mp hc
  apply h text htext
  rw [accepts_iff]
  exact ⟨payload, decodeChecked_characters_iff.mp hdecode⟩

/-- An item of a list stands between the items before it and those behind it. -/
theorem eq_take_append_cons_drop {α : Type} {items : List α} {item : α} {i : Nat} (h : items[i]? = some item) :
    items = items.take i ++ item :: items.drop (i + 1) := by
  obtain ⟨hi, rfl⟩ := List.getElem?_eq_some_iff.mp h
  rw [← List.drop_eq_getElem_cons hi, List.take_append_drop]

/-- A number below another comes in its range behind the smaller ones. -/
theorem exists_range_eq {k n : Nat} (h : k < n) : ∃ greater, List.range n = List.range k ++ k :: greater := by
  have hsplit := eq_take_append_cons_drop (List.getElem?_range h)
  rw [List.take_range, Nat.min_eq_left (Nat.le_of_lt h)] at hsplit
  exact ⟨_, hsplit⟩

/-! ## The answer of a repair -/

section Answer

variable {m : Type → Type} [Monad m] [LawfulMonad m] {text : String} {checksum : Checksum} {limits : Limits}

/-- A repair has the answer that its search has under a clock that stands still. -/
theorem repair_eq_of_search {answer : Except Failure Repaired} {reports : Array Progress}
    (h : search text checksum limits (fun _ => pure 0) = (pure ⟨answer, reports⟩ : Id Outcome)) :
    repair text checksum limits = answer := by
  rw [repair, h]
  rfl

/-- What a search of a text has to report is told by its length and the greatest number of changes. -/
theorem reported_problemOf (text : String) (checksum : Checksum) (limits : Limits) :
    reported 0 (problemOf text checksum limits).events = boundaries text.length limits.maxChanges := by
  rw [reported_events, ← length_characters]
  rfl

/-- Where a candidate comes in the list of candidates, its event comes in the events, behind those of the candidates before
it. What is reported up to there are the boundaries that at most the candidates before it precede. -/
theorem exists_events_eq (checksum : Checksum) {before after : List String} {fixed : String}
    (hsplit : candidates text limits.maxChanges = before ++ fixed :: after) :
    ∃ earlier later, (problemOf text checksum limits).events = earlier ++ .candidate (characters fixed) :: later ∧
      candidatesOf earlier = before.map characters ∧ (candidatesOf earlier).length = before.length ∧
      (boundaries text.length limits.maxChanges).filter (·.tried ≤ before.length) = reported 0 earlier := by
  have hcandidates : candidatesOf (problemOf text checksum limits).events =
      before.map characters ++ characters fixed :: after.map characters := by
    rw [candidatesOf_events_eq, hsplit, List.map_append, List.map_cons]
  obtain ⟨earlier, later, hevents, hearlier⟩ := exists_events_split hcandidates
  have hlength : (candidatesOf earlier).length = before.length := by rw [hearlier, List.length_map]
  refine ⟨earlier, later, hevents, hearlier, hlength, ?_⟩
  rw [← filter_reported earlier later (characters fixed), ← hevents, reported_problemOf, hlength]

/-- The reports of a tally that starts with none. -/
theorem reports_eq_toArray (events : List Event) :
    (events.foldl Tally.after ⟨0, #[]⟩).reports = (reported 0 events).toArray := by
  apply Array.toList_inj.mp
  rw [reports_foldl_after]
  rfl

/-- Without a deadline, the first accepted candidate is the answer, if the budget allows so many candidates. -/
theorem search_eq_ok (clock : Nat → m Nat) (hdeadline : limits.deadline = none) {before after : List String}
    {fixed : String} {payload : List UInt8} (hsplit : candidates text limits.maxChanges = before ++ fixed :: after)
    (hbudget : ∀ most ∈ limits.maxCandidates, before.length < most)
    (hrejected : ∀ earlier ∈ before, ¬accepts checksum earlier)
    (haccepted : Base58.decodeChecked (Utf8.encode fixed) checksum = .ok payload) :
    search text checksum limits clock =
      pure ⟨.ok ((problemOf text checksum limits).repaired (characters fixed) payload (before.length + 1)),
        ((boundaries text.length limits.maxChanges).filter (·.tried ≤ before.length)).toArray⟩ := by
  obtain ⟨earlier, later, hevents, hearlier, hlength, hreports⟩ := exists_events_eq checksum hsplit
  have hallowed : ∀ most ∈ limits.maxCandidates, 0 + (candidatesOf earlier).length < most := by
    intro most hmost
    rw [hlength, Nat.zero_add]
    exact hbudget most hmost
  have hnone : ∀ c ∈ candidatesOf earlier, ∀ payload, Base58.decodeChecked c checksum ≠ .ok payload := by
    rw [hearlier]
    exact decodeChecked_ne_of_mem_map hrejected
  rw [search_eq_run, hevents, (problemOf text checksum limits).run_eq_stop _ ⟨0, #[]⟩ hdeadline hallowed hnone
    (decodeChecked_characters_iff.mpr haccepted), map_pure, Verdict.outcome, reports_eq_toArray, reported_append,
    reported, reported, List.append_nil, hreports, hlength, Nat.zero_add]

/-- Without a deadline, a search whose budget allows fewer candidates than there are, and accepts none of those, stops at the
budget. -/
theorem search_eq_budgetExhausted (clock : Nat → m Nat) (hdeadline : limits.deadline = none) {most : Nat}
    (hbudget : limits.maxCandidates = some most) (hmore : most < (candidates text limits.maxChanges).length)
    (hrejected : ∀ earlier ∈ (candidates text limits.maxChanges).take most, ¬accepts checksum earlier) :
    search text checksum limits clock =
      pure ⟨.error (.budgetExhausted most most (falsePositives most)),
        ((boundaries text.length limits.maxChanges).filter (·.tried ≤ most)).toArray⟩ := by
  have hsplit := eq_take_append_cons_drop (List.getElem?_eq_getElem hmore)
  have htaken : ((candidates text limits.maxChanges).take most).length = most := by
    rw [List.length_take, Nat.min_eq_left (Nat.le_of_lt hmore)]
  obtain ⟨earlier, later, hevents, hearlier, hlength, hreports⟩ := exists_events_eq checksum hsplit
  have hmost : 0 + (candidatesOf earlier).length = most := by
    rw [hlength, htaken, Nat.zero_add]
  have hnone : ∀ c ∈ candidatesOf earlier, ∀ payload, Base58.decodeChecked c checksum ≠ .ok payload := by
    rw [hearlier]
    exact decodeChecked_ne_of_mem_map hrejected
  rw [search_eq_run, hevents, (problemOf text checksum limits).run_eq_spent _ ⟨0, #[]⟩ hdeadline hbudget hmost hnone,
    map_pure, Verdict.outcome, reports_eq_toArray, ← hreports, htaken]

/-- Without a deadline, a search that accepts no candidate has tried them all, if the budget allows so many. -/
theorem search_eq_exhausted (clock : Nat → m Nat) (hdeadline : limits.deadline = none)
    (hbudget : ∀ most ∈ limits.maxCandidates, (candidates text limits.maxChanges).length ≤ most)
    (hrejected : ∀ fixed ∈ candidates text limits.maxChanges, ¬accepts checksum fixed) :
    search text checksum limits clock =
      pure ⟨.error (.exhausted limits.maxChanges (candidates text limits.maxChanges).length
        (falsePositives (candidates text limits.maxChanges).length)),
        (boundaries text.length limits.maxChanges).toArray⟩ := by
  have hcandidates := candidatesOf_events_eq text checksum limits
  have hlength : (candidatesOf (problemOf text checksum limits).events).length =
      (candidates text limits.maxChanges).length := by
    rw [hcandidates, List.length_map]
  have hallowed : ∀ most ∈ limits.maxCandidates,
      0 + (candidatesOf (problemOf text checksum limits).events).length ≤ most := by
    intro most hmost
    rw [hlength, Nat.zero_add]
    exact hbudget most hmost
  have hnone : ∀ c ∈ candidatesOf (problemOf text checksum limits).events, ∀ payload,
      Base58.decodeChecked c checksum ≠ .ok payload := by
    rw [hcandidates]
    exact decodeChecked_ne_of_mem_map hrejected
  rw [search_eq_run, (problemOf text checksum limits).run_eq_more _ ⟨0, #[]⟩ hdeadline hallowed hnone, map_pure,
    Verdict.outcome, reports_eq_toArray, tried_foldl_after, hlength, reported_problemOf, Nat.zero_add]

end Answer

/-! ## The first accepted candidate -/

/-- The found text of an accepted candidate is the candidate. -/
theorem fixed_repaired {problem : Problem} {checksum : Checksum} {fixed : String} {payload : List UInt8} {tried : Nat}
    (h : Base58.decodeChecked (Utf8.encode fixed) checksum = .ok payload) :
    (problem.repaired (characters fixed) payload tried).fixed = fixed :=
  asciiText_characters fun c hc => Base58.lt_of_mem_alphabet (mem_alphabet_of_decodeChecked h c hc)

/-- Before the first accepted text of a list stand texts that are not accepted. -/
theorem exists_split_of_findIdx? {checksum : Checksum} {texts : List String} {i : Nat}
    (h : texts.findIdx? (accepts checksum) = some i) :
    ∃ before fixed after, texts = before ++ fixed :: after ∧ before.length = i ∧
      (∀ earlier ∈ before, ¬accepts checksum earlier) ∧ accepts checksum fixed := by
  obtain ⟨hi, haccepts, hbefore⟩ := List.findIdx?_eq_some_iff_getElem.mp h
  refine ⟨texts.take i, texts[i], texts.drop (i + 1), eq_take_append_cons_drop (List.getElem?_eq_getElem hi), ?_, ?_,
    haccepts⟩
  · rw [List.length_take, Nat.min_eq_left (Nat.le_of_lt hi)]
  · intro earlier hearlier
    obtain ⟨j, hj, rfl⟩ := List.mem_take_iff_getElem.mp hearlier
    exact hbefore j (by omega)

/-- A repair without a deadline or a budget finds the first accepted candidate, or has tried them all. -/
theorem repair_cases (text : String) (checksum : Checksum) (maxChanges : Nat) :
    (∃ i fixed payload, (candidates text maxChanges).findIdx? (accepts checksum) = some i ∧
        (candidates text maxChanges)[i]? = some fixed ∧
        Base58.decodeChecked (Utf8.encode fixed) checksum = .ok payload ∧
        ∃ found, repair text checksum { maxChanges } = .ok found ∧ found.fixed = fixed ∧ found.payload = payload ∧
          found.tried = i + 1) ∨
      ((candidates text maxChanges).findIdx? (accepts checksum) = none ∧
        repair text checksum { maxChanges } = .error (.exhausted maxChanges (candidates text maxChanges).length
          (falsePositives (candidates text maxChanges).length))) := by
  cases hfind : (candidates text maxChanges).findIdx? (accepts checksum) with
  | none =>
    refine Or.inr ⟨rfl, repair_eq_of_search (search_eq_exhausted _ rfl (fun most h => by cases h) ?_)⟩
    intro fixed hfixed haccepts
    have := List.findIdx?_eq_none_iff.mp hfind fixed hfixed
    rw [haccepts] at this
    cases this
  | some i =>
    obtain ⟨before, fixed, after, hsplit, rfl, hrejected, haccepts⟩ := exists_split_of_findIdx? hfind
    obtain ⟨payload, hdecode⟩ := accepts_iff.mp haccepts
    refine Or.inl ⟨before.length, fixed, payload, rfl, ?_, hdecode, _,
      repair_eq_of_search (search_eq_ok _ rfl hsplit (fun most h => by cases h) hrejected hdecode), fixed_repaired hdecode,
      rfl, rfl⟩
    rw [hsplit, List.getElem?_append_right (Nat.le_refl _), Nat.sub_self]
    rfl

/-- A repair without a deadline or a budget answers the first candidate that is accepted, with what it decodes to and its
place in the list of candidates; where none is accepted, the failure tells the length of the list. -/
theorem repair_first_accepted (text : String) (checksum : Checksum) (maxChanges : Nat) :
    match (candidates text maxChanges).findIdx? (accepts checksum) with
    | some i => ∃ found, repair text checksum { maxChanges } = .ok found ∧
        (candidates text maxChanges)[i]? = some found.fixed ∧
        Base58.decodeChecked (Utf8.encode found.fixed) checksum = .ok found.payload ∧ found.tried = i + 1
    | none => repair text checksum { maxChanges } = .error (.exhausted maxChanges (candidates text maxChanges).length
        (falsePositives (candidates text maxChanges).length)) := by
  rcases repair_cases text checksum maxChanges with ⟨i, fixed, payload, hfind, hget, hdecode, found, hrepair, hfixed,
    hpayload, htried⟩ | ⟨hfind, hrepair⟩
  · rw [hfind]
    subst hfixed hpayload
    exact ⟨found, hrepair, hget, hdecode, htried⟩
  · rw [hfind]
    exact hrepair

end KeyText.Repair
