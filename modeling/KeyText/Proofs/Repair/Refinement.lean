import KeyText.Proofs.Repair.Run

/-!
# The loops of a search refine the run of its events

The search keeps one working copy of the text and one buffer through three nested loops. Outside the positions of the current
choice the copy agrees with the text at every candidate (`Problem.Holds`), whatever the candidate before left on those
positions, and the buffer has room for all candidates; so what the loops do is what the run does, for every monad, clock and
limits (`search_eq_run`). `Refines` compares a loop with a run through all that may go on from them, because a loop ends with
a cursor where a run ends with a tally.
-/

namespace KeyText.Repair

/-- The part of a cursor that is told. -/
def Cursor.tally (cursor : Cursor) : Tally :=
  ⟨cursor.tried, cursor.reports⟩

@[simp] theorem Cursor.tried_tally (cursor : Cursor) : cursor.tally.tried = cursor.tried := rfl

/-- The verdict of a step. -/
def Step.verdict : Step → Verdict
  | .more cursor => .more cursor.tally
  | .stop cursor answer => .stop cursor.tally answer

/-- What the search relies on between two candidates: outside some positions the working copy is the text, and the buffer has
room for every candidate. -/
structure Problem.Holds (problem : Problem) (positions : List Nat) (cursor : Cursor) : Prop where
  length : cursor.working.length = problem.characters.length
  agrees : ∀ i, i ∉ positions → cursor.working[i]? = problem.characters[i]?
  room : problem.characters.length ≤ cursor.scratch.length

/-! ## One candidate -/

/-- Decoding the candidate in the working copy, into a buffer that has room for it: an accepted candidate stops the search,
and any other is counted. Of the cursor only the count and the bytes in the buffer change. -/
theorem decodeCandidate_eq (problem : Problem) (cursor : Cursor) (hroom : cursor.working.length ≤ cursor.scratch.length) :
    ∃ scratch : List UInt8, scratch.length = cursor.scratch.length ∧
      problem.decodeCandidate cursor =
        match Base58.decodeChecked cursor.working problem.checksum with
        | .ok payload =>
          .stop ⟨cursor.working, cursor.tried + 1, scratch, cursor.reports⟩
            (.ok (problem.repaired cursor.working payload (cursor.tried + 1)))
        | .error _ => .more ⟨cursor.working, cursor.tried + 1, scratch, cursor.reports⟩ := by
  rw [Problem.decodeCandidate, Base58.decodeChecked_eq, Base58.Buffer.decodeChecked_eq]
  cases hread : Base58.readSymbols cursor.working with
  | error position => exact ⟨cursor.scratch, rfl, rfl⟩
  | ok bytes =>
    have hfits : bytes.length ≤ cursor.scratch.length := Nat.le_trans (Base58.length_le_of_readSymbols hread) hroom
    have hlength : (bytes ++ cursor.scratch.drop bytes.length).length = cursor.scratch.length := by
      rw [List.length_append, List.length_drop]
      omega
    refine ⟨_, hlength, ?_⟩
    simp only [if_pos hfits]
    cases hstrip : problem.checksum.strip? bytes with
    | none => rfl
    | some payload =>
      have hbytes := (problem.checksum.strip?_eq_some_iff bytes payload).mp hstrip
      have hle : payload.length ≤ (bytes ++ cursor.scratch.drop bytes.length).length := by
        rw [List.length_append, hbytes, Checksum.append, List.length_append]
        omega
      have htake : (bytes ++ cursor.scratch.drop bytes.length).take payload.length = payload := by
        rw [hbytes, Checksum.append, List.append_assoc, List.take_left]
      simp only [if_pos hle, htake]

/-- Writing symbols on the positions of the current choice gives the candidate that writing them over the text gives: what the
candidate before left there is written over. -/
theorem overwrite?_working {problem : Problem} {positions : List Nat} {digits : List UInt8} {cursor : Cursor}
    (hlength : digits.length = positions.length) (hpositions : ∀ p ∈ positions, p < problem.characters.length)
    (hdigits : ∀ d ∈ digits, d.toNat < 58) (h : problem.Holds positions cursor) :
    overwrite? cursor.working (positions.zip digits) =
      some (overwrite symbolByte problem.characters (positions.zip digits)) := by
  have hcandidate : overwrite symbolByte cursor.working (positions.zip digits) =
      overwrite symbolByte problem.characters (positions.zip digits) := by
    apply overwrite_eq_of_agree symbolByte h.length
    rw [List.map_fst_zip (Nat.le_of_eq hlength.symm)]
    exact h.agrees
  rw [← hcandidate]
  apply overwrite?_eq_some
  rintro ⟨p, d⟩ hchange
  obtain ⟨hp, hd⟩ := List.of_mem_zip hchange
  exact ⟨h.length ▸ hpositions p hp, hdigits d hd⟩

/-- Trying a candidate does what the attempt does on the text with the symbols written over it, and leaves a working copy
that differs from the text on the same positions alone. -/
theorem tryCandidate_verdict {problem : Problem} {positions : List Nat} {digits : List UInt8} {cursor : Cursor}
    (hlength : digits.length = positions.length) (hpositions : ∀ p ∈ positions, p < problem.characters.length)
    (hdigits : ∀ d ∈ digits, d.toNat < 58) (h : problem.Holds positions cursor) :
    (problem.tryCandidate positions digits cursor).verdict =
        problem.attempt (overwrite symbolByte problem.characters (positions.zip digits)) cursor.tally ∧
      ∀ next, problem.tryCandidate positions digits cursor = .more next → problem.Holds positions next := by
  rw [Problem.tryCandidate, Problem.attempt]
  cases hspent : problem.limits.spent? cursor.tried with
  | some most =>
    simp only [Cursor.tally, hspent]
    exact ⟨rfl, fun next hnext => by cases hnext⟩
  | none =>
    simp only [Cursor.tally, hspent, overwrite?_working hlength hpositions hdigits h]
    have hroom : (overwrite symbolByte problem.characters (positions.zip digits)).length ≤ cursor.scratch.length := by
      rw [length_overwrite]
      exact h.room
    obtain ⟨scratch, hscratch, hdecode⟩ := decodeCandidate_eq problem
      { cursor with working := overwrite symbolByte problem.characters (positions.zip digits) } hroom
    rw [hdecode]
    cases Base58.decodeChecked (overwrite symbolByte problem.characters (positions.zip digits)) problem.checksum with
    | ok payload => exact ⟨rfl, fun next hnext => by cases hnext⟩
    | error e =>
      refine ⟨rfl, fun next hnext => ?_⟩
      cases hnext
      refine ⟨length_overwrite _ _ _, fun i hi => ?_, hscratch ▸ h.room⟩
      apply getElem?_overwrite_of_not_mem
      rwa [List.map_fst_zip (Nat.le_of_eq hlength.symm)]

/-- Leaving a choice of positions makes the working copy the text again. -/
theorem leavePositions_eq {problem : Problem} {positions : List Nat} {cursor : Cursor}
    (hpositions : ∀ p ∈ positions, p < problem.characters.length) (h : problem.Holds positions cursor) :
    problem.leavePositions positions cursor = .more { cursor with working := problem.characters } := by
  rw [Problem.leavePositions, restore?_eq_some h.length hpositions h.agrees]

/-! ## Loops and runs -/

section Refines

variable {m : Type → Type} [Monad m]

/-- A loop does what a run does: all that goes on alike from both ends alike. Going on from the loop, it may rely on a
property of the cursor that the loop ends with. -/
def Refines (good : Cursor → Prop) (loop : m Step) (run : m Verdict) : Prop :=
  ∀ (β : Type) (goOn : Step → m β) (goOn' : Verdict → m β),
    (∀ cursor, good cursor → goOn (.more cursor) = goOn' (.more cursor.tally)) →
    (∀ cursor answer, goOn (.stop cursor answer) = goOn' (.stop cursor.tally answer)) → loop >>= goOn = run >>= goOn'

variable [LawfulMonad m] {good good' : Cursor → Prop}

/-- A single step refines its verdict. -/
theorem Refines.pure {step : Step} (h : ∀ cursor, step = .more cursor → good cursor) :
    Refines good (pure step : m Step) (pure step.verdict) := by
  intro β goOn goOn' hmore hstop
  rw [pure_bind, pure_bind]
  cases step with
  | more cursor => exact hmore cursor (h cursor rfl)
  | stop cursor answer => exact hstop cursor answer

/-- A loop behind a loop refines a run behind a run. -/
theorem Refines.andThen {loop : m Step} {run : m Verdict} {next : Cursor → m Step} {next' : Tally → m Verdict}
    (h : Refines good loop run) (hnext : ∀ cursor, good cursor → Refines good' (next cursor) (next' cursor.tally)) :
    Refines good'
      (loop >>= fun step => match step with
        | .stop cursor answer => Pure.pure (.stop cursor answer)
        | .more cursor => next cursor)
      (run >>= fun verdict => verdict.andThen next') := by
  intro β goOn goOn' hmore hstop
  rw [bind_assoc, bind_assoc]
  apply h
  · intro cursor hcursor
    exact hnext cursor hcursor β goOn goOn' hmore hstop
  · intro cursor answer
    dsimp only [Verdict.andThen]
    rw [pure_bind, pure_bind]
    exact hstop cursor answer

/-- A look at the clock before a loop refines the same look before a run. -/
theorem Refines.unlessLate (late : m Bool) (cursor : Cursor) {loop : m Step} {run : Tally → m Verdict}
    (h : Refines good loop (run cursor.tally)) :
    Refines good (late >>= fun late => if late then Pure.pure cursor.late else loop)
      ((late >>= fun late => if late then Pure.pure cursor.tally.late else Pure.pure (.more cursor.tally)) >>=
        fun verdict => verdict.andThen run) := by
  intro β goOn goOn' hmore hstop
  rw [bind_assoc, bind_assoc, bind_assoc]
  congr 1
  funext late
  cases late with
  | true =>
    simp only [if_true, pure_bind, Tally.late, Verdict.andThen, Cursor.late]
    exact hstop cursor _
  | false =>
    simp only [Bool.false_eq_true, if_false, pure_bind, Verdict.andThen]
    exact h β goOn goOn' hmore hstop

/-! ## The loops -/

variable {problem : Problem} {clock : Nat → m Nat}

omit [LawfulMonad m] in
/-- What trying the symbols on a choice does first. -/
theorem trySymbols_eq (positions : List Nat) (odometer : Odometer) (cursor : Cursor) :
    problem.trySymbols clock positions odometer cursor =
      match Enumeration.next? odometer with
      | none => Pure.pure (.more cursor)
      | some (digits, rest) =>
        match problem.tryCandidate positions digits cursor with
        | .stop cursor answer => Pure.pure (.stop cursor answer)
        | .more cursor => (do
          let late ← if cursor.tried % pollInterval = 0 then problem.limits.isLate clock cursor.tried else Pure.pure false
          if late then Pure.pure cursor.late else problem.trySymbols clock positions rest cursor) := by
  rw [Problem.trySymbols]
  split
  · rename_i hnext
    rewrite [hnext]
    rfl
  · rename_i hnext
    rewrite [hnext]
    rfl

omit [LawfulMonad m] in
/-- What trying the choices of positions does first. -/
theorem tryPositions_eq (changes : Nat) (positions : Positions) (cursor : Cursor) :
    problem.tryPositions clock changes positions cursor =
      match Enumeration.next? positions with
      | none => Pure.pure (.more cursor)
      | some (indices, rest) => (do
        let cursor := { cursor with reports := cursor.reports.push ⟨changes, cursor.tried⟩ }
        if ← problem.limits.isLate clock cursor.tried then Pure.pure cursor.late
        else
          match ← problem.trySymbols clock indices (Odometer.start changes) cursor with
          | .stop cursor answer => Pure.pure (.stop cursor answer)
          | .more cursor =>
            match problem.leavePositions indices cursor with
            | .stop cursor answer => Pure.pure (.stop cursor answer)
            | .more cursor => problem.tryPositions clock changes rest cursor) := by
  rw [Problem.tryPositions]
  split
  · rename_i hnext
    rewrite [hnext]
    rfl
  · rename_i hnext
    rewrite [hnext]
    rfl

/-- Trying the symbols that are left on a choice refines the run of their candidates. -/
theorem trySymbols_refines {positions : List Nat} (hpositions : ∀ p ∈ positions, p < problem.characters.length)
    (odometer : Odometer)
    (hdigits : ∀ digits ∈ Enumeration.toList odometer, digits.length = positions.length ∧ ∀ d ∈ digits, d.toNat < 58)
    {cursor : Cursor} (h : problem.Holds positions cursor) :
    Refines (problem.Holds positions) (problem.trySymbols clock positions odometer cursor)
      (problem.run clock ((Enumeration.toList odometer).map fun digits =>
        .candidate (overwrite symbolByte problem.characters (positions.zip digits))) cursor.tally) := by
  induction odometer using Enumeration.induct generalizing cursor with
  | done odometer hnext =>
    rw [Enumeration.toList_eq_nil hnext, trySymbols_eq, hnext]
    exact Refines.pure fun next hstep => by cases hstep; exact h
  | step odometer digits rest hnext ih =>
    rw [Enumeration.toList_eq_cons hnext] at hdigits ⊢
    obtain ⟨hlength, hlt⟩ := hdigits digits List.mem_cons_self
    obtain ⟨hverdict, hholds⟩ := tryCandidate_verdict hlength hpositions hlt h
    rw [trySymbols_eq, hnext, List.map_cons, Problem.run, Problem.act, ← hverdict]
    dsimp only
    cases hstep : problem.tryCandidate positions digits cursor with
    | stop after answer =>
      simp only [Step.verdict, Verdict.andThen, pure_bind]
      exact Refines.pure fun next hmore => by cases hmore
    | more after =>
      have hrest := ih (fun ds hds => hdigits ds (List.mem_cons_of_mem digits hds)) (hholds after hstep)
      dsimp only [Step.verdict]
      rw [Verdict.andThen, Cursor.tried_tally]
      by_cases hpoll : after.tried % pollInterval = 0
      · rw [if_pos hpoll, if_pos hpoll]
        exact Refines.unlessLate _ after hrest
      · rw [if_neg hpoll, if_neg hpoll]
        exact Refines.unlessLate _ after hrest

/-- Trying all symbols on a choice refines the run of its candidates. -/
theorem trySymbols_start_refines {positions : List Nat} (hpositions : ∀ p ∈ positions, p < problem.characters.length)
    {cursor : Cursor} (h : problem.Holds positions cursor) :
    Refines (problem.Holds positions) (problem.trySymbols clock positions (Odometer.start positions.length) cursor)
      (problem.run clock ((problem.candidatesOn positions).map .candidate) cursor.tally) := by
  have hdigits : ∀ digits ∈ Enumeration.toList (Odometer.start positions.length),
      digits.length = positions.length ∧ ∀ d ∈ digits, d.toNat < 58 := by
    intro digits hmem
    rw [Odometer.toList_start] at hmem
    obtain ⟨k, hk, rfl⟩ := List.mem_map.mp hmem
    exact ⟨Odometer.length_reading _ _, fun d hd => Odometer.lt_of_mem_reading (List.mem_range.mp hk) hd⟩
  have hevents : (problem.candidatesOn positions).map Event.candidate =
      (Enumeration.toList (Odometer.start positions.length)).map fun digits =>
        Event.candidate (overwrite symbolByte problem.characters (positions.zip digits)) := by
    rw [Problem.candidatesOn, Odometer.toList_start, List.map_map, List.map_map]
    rfl
  rw [hevents]
  exact trySymbols_refines hpositions _ hdigits h

/-- Trying the choices that are left refines the run of their events. -/
theorem tryPositions_refines {changes : Nat} (positions : Positions)
    (hchoices : ∀ indices ∈ Enumeration.toList positions, indices.length = changes ∧
      ∀ p ∈ indices, p < problem.characters.length) {cursor : Cursor} (h : problem.Holds [] cursor) :
    Refines (problem.Holds []) (problem.tryPositions clock changes positions cursor)
      (problem.run clock ((Enumeration.toList positions).flatMap problem.eventsOn) cursor.tally) := by
  induction positions using Enumeration.induct generalizing cursor with
  | done positions hnext =>
    rw [Enumeration.toList_eq_nil hnext, tryPositions_eq, hnext]
    exact Refines.pure fun next hstep => by cases hstep; exact h
  | step positions indices rest hnext ih =>
    rw [Enumeration.toList_eq_cons hnext] at hchoices ⊢
    obtain ⟨rfl, hlt⟩ := hchoices indices List.mem_cons_self
    rw [tryPositions_eq, hnext, List.flatMap_cons, Problem.eventsOn, List.cons_append, Problem.run, Problem.act]
    dsimp only
    have hreported : problem.Holds indices { cursor with reports := cursor.reports.push ⟨indices.length, cursor.tried⟩ } :=
      ⟨h.length, fun i _ => h.agrees i List.not_mem_nil, h.room⟩
    apply Refines.unlessLate _ { cursor with reports := cursor.reports.push ⟨indices.length, cursor.tried⟩ }
    rw [Problem.run_append]
    apply (trySymbols_start_refines hlt hreported).andThen
    intro after hafter
    -- The working copy is the text again before the next choice.
    rw [leavePositions_eq hlt hafter]
    apply ih fun ps hps => hchoices ps (List.mem_cons_of_mem indices hps)
    exact ⟨rfl, fun _ _ => rfl, hafter.room⟩

/-- Trying a choice of positions of every size from one on refines the run of the levels. -/
theorem tryChanges_refines (steps changes : Nat) {cursor : Cursor} (h : problem.Holds [] cursor) :
    Refines (problem.Holds []) (problem.tryChanges clock steps changes cursor)
      (problem.run clock ((List.range' changes steps).flatMap problem.eventsOf) cursor.tally) := by
  induction steps generalizing changes cursor with
  | zero => exact Refines.pure fun next hstep => by cases hstep; exact h
  | succ steps ih =>
    rw [Problem.tryChanges, List.range'_succ, List.flatMap_cons, Problem.run_append, Problem.eventsOf,
      ← Positions.toList_start]
    refine Refines.andThen (tryPositions_refines _ ?_ h) fun after hafter => ih (changes + 1) hafter
    intro indices hmem
    rw [Positions.toList_start, Positions.mem_choices_range_iff] at hmem
    exact ⟨hmem.2.2, hmem.2.1⟩

end Refines

/-! ## The search -/

/-- The outcome of a run that is over. -/
def Verdict.outcome (limits : Limits) : Verdict → Outcome
  | .more tally => ⟨.error (.exhausted limits.maxChanges tally.tried (falsePositives tally.tried)), tally.reports⟩
  | .stop tally answer => ⟨answer, tally.reports⟩

/-- A search is the run of its events, for every monad, clock and limits. -/
theorem search_eq_run {m : Type → Type} [Monad m] [LawfulMonad m] (text : String) (checksum : Checksum) (limits : Limits)
    (clock : Nat → m Nat) :
    search text checksum limits clock =
      Verdict.outcome limits <$>
        (problemOf text checksum limits).run clock (problemOf text checksum limits).events ⟨0, #[]⟩ := by
  have hstart : (problemOf text checksum limits).Holds []
      ⟨characters text, 0, List.replicate (Base58.maxDecodedLength (characters text).length) 0, #[]⟩ := by
    refine ⟨rfl, fun _ _ => rfl, ?_⟩
    rw [List.length_replicate]
    exact Nat.le_refl _
  rw [search, map_eq_pure_bind]
  apply tryChanges_refines _ _ hstart
  · intro cursor _
    rfl
  · intro cursor answer
    rfl

end KeyText.Repair
