import KeyText.Proofs.Base58.Checked
import KeyText.Proofs.Repair.Overwrite
import KeyText.Proofs.Search.Odometer
import KeyText.Proofs.Search.Positions
import KeyText.Repair.Search

/-!
# The run of a search, event by event

What a search does, without what it does it with: a list of events, each of which begins a choice of positions or tries one
candidate, and a tally of the candidates tried and the progress reported. There is no working copy here, no buffer and no
enumeration: `Problem.events` lists the events by levels, choices and readings, and `Problem.run` goes through a list once.
Without a deadline a run is determined by its list: it comes to the end where no candidate is accepted (`run_eq_more`), stops
at the first that is (`run_eq_stop`), and does not try the one behind the last that the budget allows (`run_eq_spent`).
-/

namespace KeyText.Repair

/-- How far a search is: how many candidates it tried, and the progress it reported. -/
structure Tally where
  tried : Nat
  reports : Array Progress

/-- Whether a run goes on, or stops with an answer. -/
inductive Verdict where
  | more (tally : Tally)
  | stop (tally : Tally) (answer : Except Failure Repaired)

/-- What a search does next: it begins with a choice of so many positions, or tries a candidate. -/
inductive Event where
  | choice (changes : Nat)
  | candidate (bytes : List UInt8)

/-- The answer when the time is over. -/
def Tally.late (tally : Tally) : Verdict :=
  .stop tally (.error (.deadlineExceeded tally.tried (falsePositives tally.tried)))

/-- The tally after an event: a choice is reported, and a candidate counted. -/
def Tally.after (tally : Tally) : Event → Tally
  | .choice changes => { tally with reports := tally.reports.push ⟨changes, tally.tried⟩ }
  | .candidate _ => { tally with tried := tally.tried + 1 }

/-- Tries a candidate, unless as many as allowed were tried before it. -/
def Problem.attempt (problem : Problem) (candidate : List UInt8) (tally : Tally) : Verdict :=
  match problem.limits.spent? tally.tried with
  | some most => .stop tally (.error (.budgetExhausted most tally.tried (falsePositives tally.tried)))
  | none =>
    match Base58.decodeChecked candidate problem.checksum with
    | .ok payload =>
      .stop (tally.after (.candidate candidate)) (.ok (problem.repaired candidate payload (tally.tried + 1)))
    | .error _ => .more (tally.after (.candidate candidate))

section Run

variable {m : Type → Type} [Monad m]

/-- Goes on from the tally of a verdict, unless it is a stop. -/
def Verdict.andThen (verdict : Verdict) (next : Tally → m Verdict) : m Verdict :=
  match verdict with
  | .stop tally answer => pure (.stop tally answer)
  | .more tally => next tally

/-- One event, with the look at the clock that belongs to it. -/
def Problem.act (problem : Problem) (clock : Nat → m Nat) (tally : Tally) : Event → m Verdict
  | .choice changes => do
    let tally := tally.after (.choice changes)
    if ← problem.limits.isLate clock tally.tried then pure tally.late else pure (.more tally)
  | .candidate bytes =>
    (problem.attempt bytes tally).andThen fun tally => do
      let late ← if tally.tried % pollInterval = 0 then problem.limits.isLate clock tally.tried else pure false
      if late then pure tally.late else pure (.more tally)

/-- The events of a list one after the other, up to the first that stops. -/
def Problem.run (problem : Problem) (clock : Nat → m Nat) : List Event → Tally → m Verdict
  | [], tally => pure (.more tally)
  | event :: events, tally => problem.act clock tally event >>= fun verdict => verdict.andThen (problem.run clock events)

end Run

/-! ## The events of a search -/

/-- What a search of a text works on. -/
def problemOf (text : String) (checksum : Checksum) (limits : Limits) : Problem :=
  ⟨text, characters text, checksum, limits⟩

@[simp] theorem problemOf_checksum (text : String) (checksum : Checksum) (limits : Limits) :
    (problemOf text checksum limits).checksum = checksum := rfl

@[simp] theorem problemOf_limits (text : String) (checksum : Checksum) (limits : Limits) :
    (problemOf text checksum limits).limits = limits := rfl

/-- The candidates with symbols on given positions, in the numeric order of their digits. -/
def Problem.candidatesOn (problem : Problem) (positions : List Nat) : List (List UInt8) :=
  (List.range (58 ^ positions.length)).map fun k =>
    overwrite symbolByte problem.characters (positions.zip (Odometer.reading positions.length k))

/-- The events of one choice of positions. -/
def Problem.eventsOn (problem : Problem) (positions : List Nat) : List Event :=
  .choice positions.length :: (problem.candidatesOn positions).map .candidate

/-- The events of one level: the choices of so many positions, in lexicographic order. -/
def Problem.eventsOf (problem : Problem) (changes : Nat) : List Event :=
  (Positions.choices (List.range problem.characters.length) changes).flatMap problem.eventsOn

/-- The events of a search: those of the levels from one change to the greatest number of changes that the text has room
for. -/
def Problem.events (problem : Problem) : List Event :=
  (List.range' 1 (min problem.limits.maxChanges problem.characters.length)).flatMap problem.eventsOf

/-- The candidate that an event tries. -/
def Event.candidate? : Event → Option (List UInt8)
  | .choice _ => none
  | .candidate bytes => some bytes

/-- The candidates that events try, in order. -/
def candidatesOf (events : List Event) : List (List UInt8) :=
  events.filterMap Event.candidate?

/-- The candidates of a choice. -/
theorem candidatesOf_eventsOn (problem : Problem) (positions : List Nat) :
    candidatesOf (problem.eventsOn positions) = problem.candidatesOn positions := by
  rw [candidatesOf, Problem.eventsOn, List.filterMap_cons, Event.candidate?, List.filterMap_map]
  exact List.filterMap_some

/-- The candidates of a search, level by level and choice by choice. -/
theorem candidatesOf_events (problem : Problem) :
    candidatesOf problem.events =
      (List.range' 1 (min problem.limits.maxChanges problem.characters.length)).flatMap fun changes =>
        (Positions.choices (List.range problem.characters.length) changes).flatMap problem.candidatesOn := by
  rw [candidatesOf, Problem.events, List.filterMap_flatMap]
  congr 1
  funext changes
  rw [Problem.eventsOf, List.filterMap_flatMap]
  congr 1
  funext positions
  exact candidatesOf_eventsOn problem positions

/-- Where a candidate comes in the list of candidates, its event comes in the list of events, behind those of the candidates
before it. -/
theorem exists_events_split {events : List Event} {before after : List (List UInt8)} {candidate : List UInt8}
    (h : candidatesOf events = before ++ candidate :: after) :
    ∃ earlier later, events = earlier ++ .candidate candidate :: later ∧ candidatesOf earlier = before := by
  obtain ⟨first, second, rfl, hfirst, hsecond⟩ := List.filterMap_eq_append_iff.mp h
  obtain ⟨silent, event, later, rfl, hsilent, hevent, -⟩ := List.filterMap_eq_cons_iff.mp hsecond
  refine ⟨first ++ silent, later, ?_, ?_⟩
  · cases event with
    | choice changes => cases hevent
    | candidate bytes =>
      cases hevent
      rw [List.append_assoc]
  · rw [candidatesOf, List.filterMap_append, hfirst, List.filterMap_eq_nil_iff.mpr hsilent, List.append_nil]

/-! ## Runs without a deadline -/

/-- Each candidate is counted. -/
theorem tried_foldl_after (events : List Event) (tally : Tally) :
    (events.foldl Tally.after tally).tried = tally.tried + (candidatesOf events).length := by
  induction events generalizing tally with
  | nil => rfl
  | cons event events ih =>
    rw [List.foldl_cons, ih]
    cases event with
    | choice changes => rfl
    | candidate bytes =>
      have hcons : candidatesOf (.candidate bytes :: events) = bytes :: candidatesOf events := rfl
      rw [hcons, List.length_cons, ← Nat.add_assoc, Nat.add_right_comm]
      rfl

/-- The budget is not spent while fewer candidates were tried than it allows. -/
theorem Limits.spent?_eq_none {limits : Limits} {tried : Nat} (h : ∀ most ∈ limits.maxCandidates, tried < most) :
    limits.spent? tried = none := by
  rw [spent?, Option.filter_eq_none_iff]
  intro most hmost
  simpa using h most hmost

/-- The budget is spent where as many candidates were tried as it allows. -/
theorem Limits.spent?_eq_some {limits : Limits} {tried most : Nat} (hbudget : limits.maxCandidates = some most)
    (h : most ≤ tried) : limits.spent? tried = some most := by
  rw [spent?, hbudget, Option.filter_some, decide_eq_true h, if_pos rfl]

section Run

variable {m : Type → Type} [Monad m] [LawfulMonad m]

omit [LawfulMonad m] in
/-- Without a deadline it is never late. -/
theorem Limits.isLate_eq_false {limits : Limits} (h : limits.deadline = none) (clock : Nat → m Nat) (tried : Nat) :
    limits.isLate clock tried = pure false := by
  rw [isLate, h]

/-- The events of two lists, one list after the other. -/
theorem Problem.run_append (problem : Problem) (clock : Nat → m Nat) (events later : List Event) (tally : Tally) :
    problem.run clock (events ++ later) tally =
      problem.run clock events tally >>= fun verdict => verdict.andThen (problem.run clock later) := by
  induction events generalizing tally with
  | nil =>
    rw [List.nil_append, Problem.run, pure_bind]
    rfl
  | cons event events ih =>
    rw [List.cons_append, Problem.run, Problem.run, bind_assoc]
    congr 1
    funext verdict
    cases verdict with
    | more tally => exact ih tally
    | stop tally answer =>
      simp only [Verdict.andThen, pure_bind]

variable (problem : Problem) (clock : Nat → m Nat) (tally : Tally)

/-- Without a deadline, an event that does not stop is only tallied. -/
theorem Problem.act_eq_more (hdeadline : problem.limits.deadline = none) {event : Event}
    (hbudget : ∀ most ∈ problem.limits.maxCandidates, tally.tried + (candidatesOf [event]).length ≤ most)
    (hrejected : ∀ c ∈ candidatesOf [event], ∀ payload, Base58.decodeChecked c problem.checksum ≠ .ok payload) :
    problem.act clock tally event = pure (.more (tally.after event)) := by
  cases event with
  | choice changes =>
    rw [Problem.act, Limits.isLate_eq_false hdeadline, pure_bind]
    rfl
  | candidate bytes =>
    have hattempt : problem.attempt bytes tally = .more (tally.after (.candidate bytes)) := by
      rw [Problem.attempt, Limits.spent?_eq_none fun most h => hbudget most h]
      cases hdecode : Base58.decodeChecked bytes problem.checksum with
      | ok payload => exact absurd hdecode (hrejected bytes (List.mem_singleton_self bytes) payload)
      | error e => rfl
    rw [Problem.act, hattempt, Verdict.andThen, Limits.isLate_eq_false hdeadline, ite_self, pure_bind]
    rfl

/-- Without a deadline, a run whose candidates are all allowed and none accepted comes to its end. -/
theorem Problem.run_eq_more (hdeadline : problem.limits.deadline = none) {events : List Event}
    (hbudget : ∀ most ∈ problem.limits.maxCandidates, tally.tried + (candidatesOf events).length ≤ most)
    (hrejected : ∀ c ∈ candidatesOf events, ∀ payload, Base58.decodeChecked c problem.checksum ≠ .ok payload) :
    problem.run clock events tally = pure (.more (events.foldl Tally.after tally)) := by
  induction events generalizing tally with
  | nil => rfl
  | cons event events ih =>
    have hsplit : candidatesOf (event :: events) = candidatesOf [event] ++ candidatesOf events :=
      List.filterMap_append (l := [event])
    rw [hsplit] at hbudget hrejected
    have hact : problem.act clock tally event = pure (.more (tally.after event)) := by
      refine act_eq_more problem clock tally hdeadline (fun most h => ?_) fun c hc => hrejected c (List.mem_append_left _ hc)
      have := hbudget most h
      rw [List.length_append] at this
      omega
    rw [Problem.run, hact, pure_bind, List.foldl_cons]
    refine ih _ (fun most h => ?_) fun c hc => hrejected c (List.mem_append_right _ hc)
    have htried : (tally.after event).tried = tally.tried + (candidatesOf [event]).length := tried_foldl_after [event] tally
    have := hbudget most h
    rw [List.length_append] at this
    omega

/-- Without a deadline, a run stops at the first candidate that is accepted, if so many candidates are allowed. -/
theorem Problem.run_eq_stop (hdeadline : problem.limits.deadline = none) {earlier later : List Event}
    {candidate payload : List UInt8}
    (hbudget : ∀ most ∈ problem.limits.maxCandidates, tally.tried + (candidatesOf earlier).length < most)
    (hrejected : ∀ c ∈ candidatesOf earlier, ∀ payload, Base58.decodeChecked c problem.checksum ≠ .ok payload)
    (haccepted : Base58.decodeChecked candidate problem.checksum = .ok payload) :
    problem.run clock (earlier ++ .candidate candidate :: later) tally =
      pure (.stop ((earlier ++ [Event.candidate candidate]).foldl Tally.after tally)
        (.ok (problem.repaired candidate payload (tally.tried + (candidatesOf earlier).length + 1)))) := by
  have hspent : problem.limits.spent? (earlier.foldl Tally.after tally).tried = none := by
    apply Limits.spent?_eq_none
    intro most h
    rw [tried_foldl_after]
    exact hbudget most h
  rw [run_append, run_eq_more problem clock tally hdeadline (fun most h => Nat.le_of_lt (hbudget most h)) hrejected,
    pure_bind, Verdict.andThen, Problem.run, Problem.act, Problem.attempt, hspent, haccepted]
  dsimp only [Verdict.andThen]
  rw [pure_bind, List.foldl_append, List.foldl_cons, List.foldl_nil, tried_foldl_after]

/-- Without a deadline, a run stops at the candidate behind the last that is allowed, if none was accepted before it. -/
theorem Problem.run_eq_spent (hdeadline : problem.limits.deadline = none) {earlier later : List Event}
    {candidate : List UInt8} {most : Nat} (hbudget : problem.limits.maxCandidates = some most)
    (hmost : tally.tried + (candidatesOf earlier).length = most)
    (hrejected : ∀ c ∈ candidatesOf earlier, ∀ payload, Base58.decodeChecked c problem.checksum ≠ .ok payload) :
    problem.run clock (earlier ++ .candidate candidate :: later) tally =
      pure (.stop (earlier.foldl Tally.after tally) (.error (.budgetExhausted most most (falsePositives most)))) := by
  have htried : (earlier.foldl Tally.after tally).tried = most := by
    rw [tried_foldl_after, hmost]
  have hallowed : ∀ most' ∈ problem.limits.maxCandidates, tally.tried + (candidatesOf earlier).length ≤ most' := by
    intro most' h
    rw [hbudget] at h
    cases h
    exact Nat.le_of_eq hmost
  rw [run_append, run_eq_more problem clock tally hdeadline hallowed hrejected, pure_bind, Verdict.andThen, Problem.run,
    Problem.act, Problem.attempt, Limits.spent?_eq_some hbudget (Nat.le_of_eq htried.symm), htried]
  dsimp only [Verdict.andThen]
  rw [pure_bind]

end Run

end KeyText.Repair
