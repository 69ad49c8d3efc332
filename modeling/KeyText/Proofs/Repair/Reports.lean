import KeyText.Proofs.Repair.Run

/-!
# What a search reports

A search reports its progress when it comes to a choice of positions: how many positions it changes from there on, and how
many candidates came before. What it would report if it never stopped is `boundaries`, told by the length of the text and the
greatest number of changes alone. What it does report up to a candidate are the boundaries that at most so many candidates
precede (`filter_reported`), the one at which it may have stopped included.
-/

namespace KeyText.Repair

/-- The choices of positions of a search, in the order in which it comes to them. -/
def choices (length maxChanges : Nat) : List (List Nat) :=
  (List.range' 1 (min maxChanges length)).flatMap (Positions.choices (List.range length))

/-- The number of candidates on the choices before one. -/
def offset (choices : List (List Nat)) (i : Nat) : Nat :=
  ((choices.take i).map fun positions => 58 ^ positions.length).sum

/-- What there is to report at each choice of positions: its size, and how many candidates come before it. -/
def boundaries (length maxChanges : Nat) : List Progress :=
  (choices length maxChanges).mapIdx fun i positions => ⟨positions.length, offset (choices length maxChanges) i⟩

/-- What a search without a deadline reports, by its answer: the boundaries before the candidate that was found, those that
the budget lets it come to, or all of them. -/
def reportsFor (length maxChanges : Nat) : Except Failure Repaired → List Progress
  | .ok found => (boundaries length maxChanges).filter (·.tried < found.tried)
  | .error (.budgetExhausted most _ _) => (boundaries length maxChanges).filter (·.tried ≤ most)
  | .error _ => boundaries length maxChanges

/-! ## The reports of events -/

/-- What is reported in the course of events, when so many candidates were tried before them. -/
def reported : (tried : Nat) → List Event → List Progress
  | _, [] => []
  | tried, .choice changes :: events => ⟨changes, tried⟩ :: reported tried events
  | tried, .candidate _ :: events => reported (tried + 1) events

/-- The candidates after an event that is a candidate. -/
theorem candidatesOf_candidate (bytes : List UInt8) (events : List Event) :
    candidatesOf (.candidate bytes :: events) = bytes :: candidatesOf events := rfl

/-- The candidates after an event that is a choice. -/
theorem candidatesOf_choice (changes : Nat) (events : List Event) :
    candidatesOf (.choice changes :: events) = candidatesOf events := rfl

/-- The tally after events has their reports behind the earlier ones. -/
theorem reports_foldl_after (events : List Event) (tally : Tally) :
    (events.foldl Tally.after tally).reports.toList = tally.reports.toList ++ reported tally.tried events := by
  induction events generalizing tally with
  | nil => exact (List.append_nil _).symm
  | cons event events ih =>
    rw [List.foldl_cons, ih]
    cases event with
    | choice changes =>
      rw [Tally.after, Array.toList_push, List.append_assoc]
      rfl
    | candidate bytes => rfl

/-- The reports of two lists of events, one after the other. -/
theorem reported_append (tried : Nat) (events later : List Event) :
    reported tried (events ++ later) = reported tried events ++ reported (tried + (candidatesOf events).length) later := by
  induction events generalizing tried with
  | nil => rfl
  | cons event events ih =>
    cases event with
    | choice changes => rw [List.cons_append, reported, reported, ih, candidatesOf_choice, List.cons_append]
    | candidate bytes =>
      rw [List.cons_append, reported, reported, ih, candidatesOf_candidate, List.length_cons, Nat.add_right_comm,
        Nat.add_assoc]

/-- A report tells no fewer candidates than were tried before the events, and no more than after them. -/
theorem bounds_of_mem_reported {tried : Nat} {events : List Event} {report : Progress}
    (h : report ∈ reported tried events) :
    tried ≤ report.tried ∧ report.tried ≤ tried + (candidatesOf events).length := by
  induction events generalizing tried with
  | nil => exact absurd h List.not_mem_nil
  | cons event events ih =>
    cases event with
    | choice changes =>
      rw [candidatesOf_choice]
      rcases List.mem_cons.mp h with rfl | h
      · exact ⟨Nat.le_refl _, Nat.le_add_right _ _⟩
      · exact ih h
    | candidate bytes =>
      obtain ⟨hfrom, hto⟩ := ih h
      rw [candidatesOf_candidate, List.length_cons]
      omega

/-- The reports up to a candidate are those that at most the candidates before it precede. -/
theorem filter_reported (earlier later : List Event) (candidate : List UInt8) :
    (reported 0 (earlier ++ .candidate candidate :: later)).filter (·.tried ≤ (candidatesOf earlier).length) =
      reported 0 earlier := by
  rw [reported_append, List.filter_append, Nat.zero_add, reported]
  have hearlier : (reported 0 earlier).filter (·.tried ≤ (candidatesOf earlier).length) = reported 0 earlier := by
    rw [List.filter_eq_self]
    intro report hreport
    have hmost := (bounds_of_mem_reported hreport).2
    rw [Nat.zero_add] at hmost
    exact decide_eq_true hmost
  have hlater : (reported ((candidatesOf earlier).length + 1) later).filter (·.tried ≤ (candidatesOf earlier).length) =
      [] := by
    rw [List.filter_eq_nil_iff]
    intro report hreport hfew
    exact absurd (of_decide_eq_true hfew) (Nat.not_le.mpr (bounds_of_mem_reported hreport).1)
  rw [hearlier, hlater, List.append_nil]

/-! ## The reports of a search -/

/-- There are as many candidates on a choice as ways to write symbols on its positions. -/
theorem Problem.length_candidatesOn (problem : Problem) (positions : List Nat) :
    (problem.candidatesOn positions).length = 58 ^ positions.length := by
  rw [candidatesOn, List.length_map, List.length_range]

/-- On a choice of positions nothing is reported but the choice. -/
theorem reported_eventsOn (problem : Problem) (tried : Nat) (positions : List Nat) :
    reported tried (problem.eventsOn positions) = [⟨positions.length, tried⟩] := by
  have hnone : ∀ (tried : Nat) (candidates : List (List UInt8)), reported tried (candidates.map .candidate) = [] := by
    intro tried candidates
    induction candidates generalizing tried with
    | nil => rfl
    | cons candidate candidates ih => exact ih (tried + 1)
  rw [Problem.eventsOn, reported, hnone]

/-- Over some choices there is a report at each, with the candidates on those before it. -/
theorem reported_flatMap (problem : Problem) (tried : Nat) (choices : List (List Nat)) :
    reported tried (choices.flatMap problem.eventsOn) =
      choices.mapIdx fun i positions => ⟨positions.length, tried + offset choices i⟩ := by
  induction choices generalizing tried with
  | nil => rfl
  | cons positions choices ih =>
    rw [List.flatMap_cons, reported_append, reported_eventsOn, candidatesOf_eventsOn, problem.length_candidatesOn, ih,
      List.mapIdx_cons, List.singleton_append]
    simp only [offset, List.take_zero, List.take_succ_cons, List.map_nil, List.map_cons, List.sum_nil, List.sum_cons,
      Nat.add_zero, Nat.add_assoc]

/-- What is reported in the course of all events of a search are the boundaries. -/
theorem reported_events (problem : Problem) :
    reported 0 problem.events = boundaries problem.characters.length problem.limits.maxChanges := by
  have hevents : problem.events =
      (choices problem.characters.length problem.limits.maxChanges).flatMap problem.eventsOn := by
    rw [choices, List.flatMap_assoc]
    rfl
  rw [hevents, reported_flatMap, boundaries]
  simp only [Nat.zero_add]

end KeyText.Repair
