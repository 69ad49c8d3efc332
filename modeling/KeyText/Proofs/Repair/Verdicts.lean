import KeyText.Proofs.Repair.Refinement

/-!
# What a search may answer

`Problem.Answers` tells the answers that a search may have, with the reason for each: a candidate that it tried decodes, all
candidates were tried, the budget was spent, or there is a deadline. One event stops with such an answer or not at all
(`Problem.always_act`), and so does a run of events (`Problem.always_run_answers`), whatever the clock tells and whatever monad it
runs in (`Always`).
-/

namespace KeyText.Repair

/-! ## What all values of a computation have -/

section Always

variable {m : Type → Type} {α β : Type}

/-- A property that every value of a computation has: the computation is one of values with proofs of the property, without
the proofs. -/
def Always [Functor m] (property : α → Prop) (computation : m α) : Prop :=
  ∃ proven : m {value : α // property value}, Subtype.val <$> proven = computation

/-- Without a monad around it, the value itself has the property. -/
theorem Always.run {property : α → Prop} {computation : Id α} (h : Always property computation) :
    property (Id.run computation) := by
  obtain ⟨proven, rfl⟩ := h
  exact (Id.run proven).2

variable [Monad m] [LawfulMonad m] {property : α → Prop} {property' : β → Prop}

/-- The only value of a computation without effects. -/
theorem Always.pure {value : α} (h : property value) : Always property (pure value : m α) :=
  ⟨Pure.pure ⟨value, h⟩, map_pure _ _⟩

/-- Nothing need be known of the values of a computation. -/
theorem Always.true (computation : m α) : Always (fun _ => True) computation := by
  refine ⟨(⟨·, trivial⟩) <$> computation, ?_⟩
  rw [← comp_map]
  exact id_map computation

/-- A function of the values. -/
theorem Always.map {f : α → β} {computation : m α} (h : Always property computation)
    (hf : ∀ value, property value → property' (f value)) : Always property' (f <$> computation) := by
  obtain ⟨proven, rfl⟩ := h
  refine ⟨(fun value => ⟨f value.1, hf value.1 value.2⟩) <$> proven, ?_⟩
  rw [← comp_map, ← comp_map]
  rfl

/-- A property that follows. -/
theorem Always.imp {weaker : α → Prop} {computation : m α} (h : Always property computation)
    (hweaker : ∀ value, property value → weaker value) : Always weaker computation := by
  have hmap := h.map (f := id) hweaker
  rwa [id_map] at hmap

/-- A computation behind another. -/
theorem Always.bind {computation : m α} {next : α → m β} (h : Always property computation)
    (hnext : ∀ value, property value → Always property' (next value)) : Always property' (computation >>= next) := by
  obtain ⟨proven, rfl⟩ := h
  choose provenNext hproven using hnext
  refine ⟨proven >>= fun value => provenNext value.1 value.2, ?_⟩
  rw [map_bind, bind_map_left]
  congr 1
  funext value
  exact hproven value.1 value.2

end Always

/-! ## The answers of a search -/

/-- What a search may answer when it tries some candidates: one of them that decodes, or one of the three failures that the limits
account for. -/
inductive Problem.Answers (problem : Problem) (candidates : List (List UInt8)) : Except Failure Repaired → Prop
  | found {candidate payload : List UInt8} (tried : Nat) (mem : candidate ∈ candidates)
    (accepted : Base58.decodeChecked candidate problem.checksum = .ok payload) :
    problem.Answers candidates (.ok (problem.repaired candidate payload tried))
  | exhausted (tried : Nat) :
    problem.Answers candidates (.error (.exhausted problem.limits.maxChanges tried (falsePositives tried)))
  | budgetExhausted {most : Nat} (tried : Nat) (budget : problem.limits.maxCandidates = some most) (spent : most ≤ tried) :
    problem.Answers candidates (.error (.budgetExhausted most tried (falsePositives tried)))
  | deadlineExceeded {most : Nat} (tried : Nat) (deadline : problem.limits.deadline = some most) :
    problem.Answers candidates (.error (.deadlineExceeded tried (falsePositives tried)))

/-- More candidates allow more answers. -/
theorem Problem.Answers.mono {problem : Problem} {candidates more : List (List UInt8)} {answer : Except Failure Repaired}
    (h : problem.Answers candidates answer) (hmore : candidates ⊆ more) : problem.Answers more answer := by
  cases h with
  | found tried mem accepted => exact .found tried (hmore mem) accepted
  | exhausted tried => exact .exhausted tried
  | budgetExhausted tried budget spent => exact .budgetExhausted tried budget spent
  | deadlineExceeded tried deadline => exact .deadlineExceeded tried deadline

/-- A verdict that, if it is a stop, has such an answer. -/
def Problem.MayStop (problem : Problem) (candidates : List (List UInt8)) : Verdict → Prop
  | .more _ => True
  | .stop _ answer => problem.Answers candidates answer

section Run

variable {m : Type → Type} [Monad m] [LawfulMonad m] (problem : Problem) (clock : Nat → m Nat)

/-- It is late only where there is a deadline. -/
theorem Limits.always_isLate (limits : Limits) (clock : Nat → m Nat) (tried : Nat) :
    Always (fun late => late = true → ∃ most, limits.deadline = some most) (limits.isLate clock tried) := by
  rw [isLate]
  cases limits.deadline with
  | none => exact Always.pure fun h => by cases h
  | some most => exact (Always.true (clock tried)).bind fun _ _ => Always.pure fun _ => ⟨most, rfl⟩

/-- A look at the clock stops a run only where there is a deadline. -/
theorem Problem.mayStop_unlessLate (candidates : List (List UInt8)) (tally : Tally) {late : m Bool}
    (h : Always (fun late => late = true → ∃ most, problem.limits.deadline = some most) late) :
    Always (problem.MayStop candidates) (late >>= fun late => if late then pure tally.late else pure (.more tally)) := by
  refine h.bind fun late hlate => ?_
  cases late with
  | true =>
    obtain ⟨most, hdeadline⟩ := hlate rfl
    exact Always.pure (.deadlineExceeded _ hdeadline)
  | false => exact Always.pure trivial

/-- Trying a candidate stops where it decodes or the budget is spent. -/
theorem Problem.mayStop_attempt (candidate : List UInt8) (tally : Tally) :
    problem.MayStop [candidate] (problem.attempt candidate tally) := by
  rw [attempt]
  cases hspent : problem.limits.spent? tally.tried with
  | some most =>
    obtain ⟨hbudget, hle⟩ := Option.filter_eq_some_iff.mp hspent
    exact .budgetExhausted _ hbudget (of_decide_eq_true hle)
  | none =>
    dsimp only
    cases hdecode : Base58.decodeChecked candidate problem.checksum with
    | ok payload => exact .found _ (List.mem_singleton_self candidate) hdecode
    | error e => exact trivial

/-- An event stops with an answer that a search may have when it tries the candidate of the event. -/
theorem Problem.always_act (tally : Tally) (event : Event) :
    Always (problem.MayStop (candidatesOf [event])) (problem.act clock tally event) := by
  cases event with
  | choice changes => exact problem.mayStop_unlessLate _ _ (problem.limits.always_isLate clock _)
  | candidate bytes =>
    have hattempt : problem.MayStop (candidatesOf [.candidate bytes]) (problem.attempt bytes tally) :=
      problem.mayStop_attempt bytes tally
    rw [act]
    cases hverdict : problem.attempt bytes tally with
    | stop tally answer =>
      rw [hverdict] at hattempt
      exact Always.pure hattempt
    | more tally =>
      rw [Verdict.andThen]
      by_cases hpoll : tally.tried % pollInterval = 0
      · rw [if_pos hpoll]
        exact problem.mayStop_unlessLate _ tally (problem.limits.always_isLate clock _)
      · rw [if_neg hpoll]
        exact problem.mayStop_unlessLate _ tally (Always.pure fun h => by cases h)

/-- A run stops with an answer that a search may have when it tries the candidates of its events. -/
theorem Problem.always_run_answers (events : List Event) (tally : Tally) :
    Always (problem.MayStop (candidatesOf events)) (problem.run clock events tally) := by
  induction events generalizing tally with
  | nil => exact Always.pure trivial
  | cons event events ih =>
    have hsplit : candidatesOf (event :: events) = candidatesOf [event] ++ candidatesOf events :=
      List.filterMap_append (l := [event])
    rw [hsplit]
    refine (problem.always_act clock tally event).bind fun verdict hverdict => ?_
    cases verdict with
    | stop tally answer => exact Always.pure (hverdict.mono (List.subset_append_left _ _))
    | more tally =>
      refine (ih tally).imp fun verdict hlater => ?_
      cases verdict with
      | more tally => exact trivial
      | stop tally answer => exact hlater.mono (List.subset_append_right _ _)

end Run

/-- A search has an answer that it may have when it tries its candidates. -/
theorem always_search_answers {m : Type → Type} [Monad m] [LawfulMonad m] (text : String) (checksum : Checksum)
    (limits : Limits) (clock : Nat → m Nat) :
    Always (fun outcome => (problemOf text checksum limits).Answers
      (candidatesOf (problemOf text checksum limits).events) outcome.answer) (search text checksum limits clock) := by
  rw [search_eq_run]
  refine ((problemOf text checksum limits).always_run_answers clock _ _).map fun verdict hverdict => ?_
  cases verdict with
  | more tally => exact .exhausted tally.tried
  | stop tally answer => exact hverdict

/-- What holds of all that a search may tell of a found text holds of what it tells, with every clock and without one. -/
theorem forall_found {m : Type → Type} [Monad m] [LawfulMonad m] {text : String} {checksum : Checksum} {limits : Limits}
    (clock : Nat → m Nat) {property : Repaired → Prop}
    (h : ∀ found, (problemOf text checksum limits).Answers (candidatesOf (problemOf text checksum limits).events) (.ok found) →
      property found) :
    Always (fun outcome => ∀ found, outcome.answer = .ok found → property found) (search text checksum limits clock) ∧
      ∀ found, repair text checksum limits = .ok found → property found := by
  have hsearch : ∀ {n : Type → Type} [Monad n] [LawfulMonad n] (clock : Nat → n Nat),
      Always (fun outcome => ∀ found, outcome.answer = .ok found → property found) (search text checksum limits clock) := by
    intro n _ _ clock
    refine (always_search_answers text checksum limits clock).imp fun outcome hanswers found hfound => ?_
    rw [hfound] at hanswers
    exact h found hanswers
  exact ⟨hsearch clock, (hsearch fun _ => (pure 0 : Id Nat)).run⟩

end KeyText.Repair
