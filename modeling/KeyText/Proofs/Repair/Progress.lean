import KeyText.Proofs.Repair.Planned

/-!
# Progress is reported at the choices of positions

A search without a deadline answers the same and reports the same in every monad and with every clock. It reports at each
choice of positions that it comes to, in order: how many positions it has, and how many candidates the choices before it have
(`search_reports`). A budget that is spent exactly at a choice of positions leaves one more report, behind which no candidate
is tried. No report tells more candidates than were planned.
-/

namespace KeyText.Repair

section Reports

variable {text : String} {checksum : Checksum} {limits : Limits}

/-- No more candidates come before a choice of positions than there are. -/
theorem tried_le_length (checksum : Checksum) {report : Progress}
    (h : report ∈ boundaries text.length limits.maxChanges) :
    report.tried ≤ (candidates text limits.maxChanges).length := by
  rw [← reported_problemOf text checksum limits] at h
  have hle := (bounds_of_mem_reported h).2
  rwa [candidatesOf_events_eq, List.length_map, Nat.zero_add] at hle

/-- A search reports no more candidates than were planned. -/
theorem Ends.tried_le_planned (hbudget : ∀ most ∈ limits.maxCandidates, most < UInt64.size)
    (hcount : limits.maxCandidates = none → Count.total text.length limits.maxChanges < UInt64.size)
    {answer : Except Failure Repaired} (h : Ends text checksum limits answer) {report : Progress}
    (hreport : report ∈ reportsFor text.length limits.maxChanges answer) :
    report.tried ≤ limits.plannedCandidates text.length := by
  cases h with
  | @found before after fixed payload split allowed rejected accepted =>
    obtain ⟨hboundary, hbefore⟩ := List.mem_filter.mp hreport
    have hlt : report.tried < before.length + 1 := of_decide_eq_true hbefore
    refine le_planned hbudget hcount (tried_le_length checksum hboundary) fun most hmost => ?_
    exact Nat.le_trans (Nat.le_of_lt_succ hlt) (Nat.le_of_lt (allowed most hmost))
  | exhausted allowed rejected =>
    have hle := tried_le_length checksum hreport
    exact le_planned hbudget hcount hle fun most hmost => Nat.le_trans hle (allowed most hmost)
  | spent budget more rejected =>
    rw [planned_eq_budget hbudget hcount budget more]
    exact of_decide_eq_true (List.mem_filter.mp hreport).2

end Reports

/-- Under a budget of 64 bits, or without one where so many candidates can be counted, a search without a deadline has the
answer of the repair, and reports the boundaries of its choices of positions, in order: those that fewer candidates precede
than were tried, if it found something; all of them, if it is exhausted; and those that no more candidates precede than the
budget allows, if that is exhausted. It ends in no other way, and no report tells more candidates than were planned. -/
theorem search_reports {m : Type → Type} [Monad m] [LawfulMonad m] (text : String) (checksum : Checksum) (limits : Limits)
    (clock : Nat → m Nat) (hdeadline : limits.deadline = none)
    (hbudget : ∀ most ∈ limits.maxCandidates, most < UInt64.size)
    (hcount : limits.maxCandidates = none → Count.total text.length limits.maxChanges < UInt64.size) :
    ∃ reports : Array Progress,
      search text checksum limits clock = pure ⟨repair text checksum limits, reports⟩ ∧
      (match repair text checksum limits with
        | .ok found => reports.toList = (boundaries text.length limits.maxChanges).filter (·.tried < found.tried)
        | .error (.exhausted _ _ _) => reports.toList = boundaries text.length limits.maxChanges
        | .error (.budgetExhausted most _ _) =>
          reports.toList = (boundaries text.length limits.maxChanges).filter (·.tried ≤ most)
        | .error _ => False) ∧
      ∀ report ∈ reports, report.tried ≤ limits.plannedCandidates text.length := by
  obtain ⟨answer, hends⟩ := exists_ends text checksum limits
  rw [hends.repair_eq hdeadline]
  refine ⟨_, hends.search_eq clock hdeadline, ?_, fun report hreport => ?_⟩
  · cases hends with
    | found split allowed rejected accepted => rfl
    | exhausted allowed rejected => rfl
    | spent budget more rejected => rfl
  · exact hends.tried_le_planned hbudget hcount (List.mem_toArray.mp hreport)

/-- A search that finds something on the fourth position, and one whose budget is spent where it comes to the second. -/
theorem search_reports_short_searches :
    ({ maxCandidates := some 200 } : Limits).deadline = none ∧ (∀ most ∈ some 200, most < UInt64.size) ∧
      (∀ most ∈ some 58, most < UInt64.size) ∧
      Id.run (search "111l" zeroDigest { maxCandidates := some 200 } fun _ => pure 0) =
        ⟨.ok (repairedAs "111l" "1111" [] 175), #[⟨1, 0⟩, ⟨1, 58⟩, ⟨1, 116⟩, ⟨1, 174⟩]⟩ ∧
      Id.run (search "111l" zeroDigest { maxCandidates := some 58 } fun _ => pure 0) =
        ⟨.error (.budgetExhausted 58 58 (falsePositives 58)), #[⟨1, 0⟩, ⟨1, 58⟩]⟩ := by
  have hlarge : ∀ most ∈ some 200, most < UInt64.size := by
    intro most hmost
    cases hmost
    decide
  have hfew : ∀ most ∈ some 58, most < UInt64.size := by
    intro most hmost
    cases hmost
    decide
  have hallowed : ∀ most ∈ some 200, 175 ≤ most := by
    intro most hmost
    cases hmost
    decide
  have hfound : repair "111l" zeroDigest { maxCandidates := some 200 } = .ok (repairedAs "111l" "1111" [] 175) :=
    (ends_wrong_last_character.found_of_le (Nat.le_refl 1) hallowed).repair_eq rfl
  have hspent : repair "111l" zeroDigest { maxCandidates := some 58 } =
      .error (.budgetExhausted 58 58 (falsePositives 58)) :=
    (ends_wrong_last_character.spent_of_found (Nat.le_refl 1) rfl (by decide : 58 < 175)).repair_eq rfl
  refine ⟨rfl, hlarge, hfew, ?_, ?_⟩
  · obtain ⟨reports, hsearch, hreports, -⟩ := search_reports "111l" zeroDigest { maxCandidates := some 200 }
      (fun _ => (pure 0 : Id Nat)) rfl hlarge fun h => by cases h
    rw [hfound] at hsearch hreports
    have hlist : reports = #[⟨1, 0⟩, ⟨1, 58⟩, ⟨1, 116⟩, ⟨1, 174⟩] :=
      Array.toList_inj.mp (hreports.trans (by decide +kernel))
    rw [hsearch, hlist]
    rfl
  · obtain ⟨reports, hsearch, hreports, -⟩ := search_reports "111l" zeroDigest { maxCandidates := some 58 }
      (fun _ => (pure 0 : Id Nat)) rfl hfew fun h => by cases h
    rw [hspent] at hsearch hreports
    have hlist : reports = #[⟨1, 0⟩, ⟨1, 58⟩] := Array.toList_inj.mp (hreports.trans (by decide +kernel))
    rw [hsearch, hlist]
    rfl

end KeyText.Repair
