import KeyText.Proofs.Repair.Ending

/-!
# A wrong character is seen only as wrong

Which wrong characters a text holds has no part in a search: two texts that hold the same symbols at the same positions, and
wrong characters at all others, are searched alike. The two runs go side by side. Their candidates have the same symbols
(`events_map_seen`), so at each event either both hold a wrong character and fail, or both are the same text over the alphabet
(`attempt_eq`, `act_eq`); by induction the runs are the same (`run_eq`), reports, deadlines and budgets included. Of an answer
only the text that it was given for differs (`search_eq_of_seen`).
-/

namespace KeyText.Repair

open Base58 (alphabet codes)

/-- Texts of one length that agree wherever one of them holds a symbol. -/
structure SameSymbols (text other : String) : Prop where
  length : other.length = text.length
  agree : ∀ i : Nat, (∃ c ∈ alphabet, text.toList[i]? = some c ∨ other.toList[i]? = some c) →
    other.toList[i]? = text.toList[i]?

/-! ## What is seen of a byte -/

/-- What decides about a byte: the symbol that it is, or that it is none. -/
def seen (byte : UInt8) : UInt8 :=
  if byte ∈ codes then byte else nonAscii

/-- A symbol is seen as itself. -/
theorem seen_of_mem {byte : UInt8} (h : byte ∈ codes) : seen byte = byte :=
  if_pos h

/-- What is seen as a symbol is that symbol. -/
theorem seen_eq_iff {byte symbol : UInt8} (h : symbol ∈ codes) : seen byte = symbol ↔ byte = symbol := by
  constructor
  · intro hseen
    by_cases hbyte : byte ∈ codes
    · rwa [seen_of_mem hbyte] at hseen
    · rw [seen, if_neg hbyte] at hseen
      subst hseen
      exact absurd h (by decide +kernel)
  · rintro rfl
    exact seen_of_mem h

/-- Bytes that are seen alike are the same, if those on one side are symbols. -/
theorem eq_of_map_seen_eq {bytes other : List UInt8} (h : other.map seen = bytes.map seen)
    (hsymbols : ∀ byte ∈ bytes, byte ∈ codes) : other = bytes := by
  induction bytes generalizing other with
  | nil => exact List.map_eq_nil_iff.mp h
  | cons byte bytes ih =>
    obtain ⟨b, bs, rfl, hb, hbs⟩ := List.map_eq_cons_iff.mp h
    have hbyte := hsymbols byte List.mem_cons_self
    rw [seen_of_mem hbyte, seen_eq_iff hbyte] at hb
    rw [hb, ih hbs fun c hc => hsymbols c (List.mem_cons_of_mem byte hc)]

/-- Bytes that are seen alike are the same and decode to the same payload, or both do not decode. -/
theorem decodeChecked_cases_of_seen {bytes other : List UInt8} (h : other.map seen = bytes.map seen) (checksum : Checksum) :
    (∃ payload, other = bytes ∧ Base58.decodeChecked bytes checksum = .ok payload) ∨
      ∃ e e', Base58.decodeChecked bytes checksum = .error e ∧ Base58.decodeChecked other checksum = .error e' := by
  cases hdecode : Base58.decodeChecked bytes checksum with
  | ok payload => exact Or.inl ⟨payload, eq_of_map_seen_eq h (Base58.mem_codes_of_decodeChecked hdecode), rfl⟩
  | error e =>
    cases hdecode' : Base58.decodeChecked other checksum with
    | ok payload =>
      rw [eq_of_map_seen_eq h.symm (Base58.mem_codes_of_decodeChecked hdecode'), hdecode'] at hdecode
      cases hdecode
    | error e' => exact Or.inr ⟨e, e', rfl, rfl⟩

/-- Texts with the same symbols are seen alike. -/
theorem SameSymbols.map_seen_eq {text other : String} (h : SameSymbols text other) :
    (characters other).map seen = (characters text).map seen := by
  apply List.ext_getElem?
  intro i
  rw [characters_eq_map, characters_eq_map, List.map_map, List.map_map, List.getElem?_map, List.getElem?_map]
  by_cases hsymbol : ∃ c ∈ alphabet, text.toList[i]? = some c ∨ other.toList[i]? = some c
  · rw [h.agree i hsymbol]
  · -- Neither text holds a symbol here, so both hold a wrong character, or both end before.
    have hnone : ∀ c, (text.toList[i]? = some c ∨ other.toList[i]? = some c) → (seen ∘ byteOf) c = nonAscii := by
      intro c hc
      refine if_neg fun hcode => hsymbol ⟨c, byteOf_mem_codes_iff.mp hcode, hc⟩
    have hlength : other.toList.length = text.toList.length := by
      rw [String.length_toList, String.length_toList, h.length]
    by_cases hi : i < text.toList.length
    · have hi' : i < other.toList.length := by rwa [hlength]
      rw [List.getElem?_eq_getElem hi, List.getElem?_eq_getElem hi', Option.map_some, Option.map_some,
        hnone _ (Or.inl (List.getElem?_eq_getElem hi)), hnone _ (Or.inr (List.getElem?_eq_getElem hi'))]
    · have hi' := Nat.le_of_not_lt hi
      rw [List.getElem?_eq_none hi', List.getElem?_eq_none (by rwa [hlength])]

/-! ## The events of both searches -/

/-- What decides about an event. -/
def Event.seen : Event → Event
  | .choice changes => .choice changes
  | .candidate bytes => .candidate (bytes.map Repair.seen)

/-- On a choice of positions, what is seen of the candidates are the symbols written over what is seen of the text. -/
theorem candidatesOn_map_seen (problem : Problem) (positions : List Nat) :
    (problem.candidatesOn positions).map (·.map seen) =
      { problem with characters := problem.characters.map seen }.candidatesOn positions := by
  rw [Problem.candidatesOn, Problem.candidatesOn, List.map_map]
  apply List.map_congr_left
  intro k hk
  rw [Function.comp_apply, map_overwrite]
  apply overwrite_congr
  rintro ⟨p, d⟩ hchange
  have hd := Odometer.lt_of_mem_reading (List.mem_range.mp hk) (List.of_mem_zip hchange).2
  exact seen_of_mem (Base58.symbolOf_mem_codes hd)

/-- What is seen of the events of a search are the events of a search of what is seen of the text. -/
theorem events_map_seen (problem : Problem) :
    problem.events.map Event.seen = { problem with characters := problem.characters.map seen }.events := by
  have hon : ∀ positions, (problem.eventsOn positions).map Event.seen =
      { problem with characters := problem.characters.map seen }.eventsOn positions := by
    intro positions
    rw [Problem.eventsOn, Problem.eventsOn, ← candidatesOn_map_seen, List.map_cons, List.map_map, List.map_map]
    rfl
  have hof : ∀ changes, (problem.eventsOf changes).map Event.seen =
      { problem with characters := problem.characters.map seen }.eventsOf changes := by
    intro changes
    simp only [Problem.eventsOf, List.map_flatMap, hon, List.length_map]
  simp only [Problem.events, List.map_flatMap, hof, List.length_map]

/-- Searches of texts that are seen alike have events that are seen alike. -/
theorem events_eq_of_seen {text other : String} (h : (characters other).map seen = (characters text).map seen)
    (checksum : Checksum) (limits : Limits) :
    (problemOf other checksum limits).events.map Event.seen = (problemOf text checksum limits).events.map Event.seen := by
  rw [events_map_seen, events_map_seen]
  dsimp only [problemOf]
  rw [h]
  rfl

/-! ## Two runs side by side -/

/-- The answer, with another text for the one it was given for. -/
def regiven (other : String) (answer : Except Failure Repaired) : Except Failure Repaired :=
  answer.map fun found => { found with given := other }

/-- The verdict, with another text for the one it was given for. -/
def Verdict.regiven (other : String) : Verdict → Verdict
  | .more tally => .more tally
  | .stop tally answer => .stop tally (Repair.regiven other answer)

/-- The outcome, with another text for the one it was given for. -/
def Outcome.regiven (other : String) (outcome : Outcome) : Outcome :=
  { outcome with answer := Repair.regiven other outcome.answer }

section Alike

variable {text other : String} {checksum : Checksum} {limits : Limits}

/-- The marks under a text over the alphabet are the same for texts that are seen alike: none of its symbols is a wrong
character of either. -/
theorem zipWith_eq_of_seen {before before' after : List UInt8} (h : before'.map seen = before.map seen)
    (hsymbols : ∀ byte ∈ after, byte ∈ codes) :
    before'.zipWith (fun b a => if b = a then ' ' else marker) after =
      before.zipWith (fun b a => if b = a then ' ' else marker) after := by
  have hseen : ∀ bytes : List UInt8, bytes.zipWith (fun b a => if b = a then ' ' else marker) after =
      (bytes.map seen).zipWith (fun b a => if b = a then ' ' else marker) after := by
    intro bytes
    rw [List.zipWith_map_left, ← List.map_uncurry_zip_eq_zipWith, ← List.map_uncurry_zip_eq_zipWith]
    apply List.map_congr_left
    rintro ⟨b, a⟩ hpair
    have ha := hsymbols a (List.of_mem_zip hpair).2
    simp only [Function.uncurry, seen_eq_iff ha]
  rw [hseen before', hseen before, h]

/-- What is told of an accepted candidate does not depend on the wrong characters of the text. -/
theorem repaired_eq_of_seen (h : (characters other).map seen = (characters text).map seen) {candidate payload : List UInt8}
    (hsymbols : ∀ byte ∈ candidate, byte ∈ codes) (tried : Nat) :
    (problemOf other checksum limits).repaired candidate payload tried =
      { (problemOf text checksum limits).repaired candidate payload tried with given := other } := by
  simp only [Problem.repaired, problemOf, zipWith_eq_of_seen h hsymbols]

/-- Candidates that are seen alike are tried alike. -/
theorem attempt_eq (h : (characters other).map seen = (characters text).map seen) {candidate candidate' : List UInt8}
    (hcandidate : candidate'.map seen = candidate.map seen) (tally : Tally) :
    (problemOf other checksum limits).attempt candidate' tally =
      ((problemOf text checksum limits).attempt candidate tally).regiven other := by
  rw [Problem.attempt, Problem.attempt, problemOf_limits, problemOf_limits, problemOf_checksum, problemOf_checksum]
  cases limits.spent? tally.tried with
  | some most => rfl
  | none =>
    rcases decodeChecked_cases_of_seen hcandidate checksum with ⟨payload, rfl, hdecode⟩ | ⟨e, e', hdecode, hdecode'⟩
    · rw [hdecode]
      dsimp only
      rw [repaired_eq_of_seen h (Base58.mem_codes_of_decodeChecked hdecode)]
      rfl
    · rw [hdecode, hdecode']
      rfl

variable {m : Type → Type} [Monad m] [LawfulMonad m]

/-- What goes on from a verdict without regard to the text goes on so whatever text the verdict is for. -/
theorem Verdict.andThen_regiven {next next' : Tally → m Verdict}
    (h : ∀ tally, next' tally = Verdict.regiven other <$> next tally) (verdict : Verdict) :
    (verdict.regiven other).andThen next' = Verdict.regiven other <$> verdict.andThen next := by
  cases verdict with
  | more tally => exact h tally
  | stop tally answer => exact (map_pure (Verdict.regiven other) (Verdict.stop tally answer)).symm

/-- A look at the clock goes without regard to the text. -/
theorem Tally.unlessLate_regiven (tally : Tally) (late : m Bool) :
    (late >>= fun late => if late then pure tally.late else pure (.more tally)) =
      Verdict.regiven other <$> (late >>= fun late => if late then pure tally.late else pure (.more tally)) := by
  rw [map_bind]
  congr 1
  funext late
  cases late with
  | true => exact (map_pure (Verdict.regiven other) tally.late).symm
  | false => exact (map_pure (Verdict.regiven other) (.more tally)).symm

/-- Events that are seen alike have the same effect, looks at the clock included. -/
theorem act_eq (h : (characters other).map seen = (characters text).map seen) (clock : Nat → m Nat) {event event' : Event}
    (hevent : event'.seen = event.seen) (tally : Tally) :
    (problemOf other checksum limits).act clock tally event' =
      Verdict.regiven other <$> (problemOf text checksum limits).act clock tally event := by
  match event, event', hevent with
  | .choice changes, .choice changes', hevent =>
    obtain rfl := Event.choice.inj hevent
    exact Tally.unlessLate_regiven _ _
  | .candidate candidate, .candidate candidate', hevent =>
    rw [Problem.act, Problem.act, attempt_eq h (Event.candidate.inj hevent)]
    apply Verdict.andThen_regiven
    intro tally
    by_cases hpoll : tally.tried % pollInterval = 0
    · rw [if_pos hpoll, if_pos hpoll]
      exact Tally.unlessLate_regiven tally _
    · rw [if_neg hpoll, if_neg hpoll]
      exact Tally.unlessLate_regiven tally _

/-- Lists of events that are seen alike run alike. -/
theorem run_eq (h : (characters other).map seen = (characters text).map seen) (clock : Nat → m Nat)
    {events events' : List Event} (hevents : events'.map Event.seen = events.map Event.seen) (tally : Tally) :
    (problemOf other checksum limits).run clock events' tally =
      Verdict.regiven other <$> (problemOf text checksum limits).run clock events tally := by
  induction events generalizing events' tally with
  | nil =>
    rw [List.map_eq_nil_iff.mp hevents]
    exact (map_pure (Verdict.regiven other) (.more tally)).symm
  | cons event events ih =>
    obtain ⟨event', events', rfl, hevent, hrest⟩ := List.map_eq_cons_iff.mp hevents
    rw [Problem.run, Problem.run, act_eq h clock hevent, bind_map_left, map_bind]
    congr 1
    funext verdict
    exact verdict.andThen_regiven (ih hrest)

/-- Texts that are seen alike are searched alike. -/
theorem search_eq_of_seen (h : (characters other).map seen = (characters text).map seen) (clock : Nat → m Nat) :
    search other checksum limits clock = Outcome.regiven other <$> search text checksum limits clock := by
  rw [search_eq_run, search_eq_run, run_eq h clock (events_eq_of_seen h checksum limits), ← comp_map, ← comp_map]
  congr 1
  funext verdict
  cases verdict with
  | more tally => rfl
  | stop tally answer => rfl

end Alike

/-! ## Two searches -/

/-- Texts that differ only in which wrong characters they hold are searched alike, in every monad, with every clock and under
all limits: the reports are the same, and the answer differs only in the text that it was given for. So the repairs fail
alike, or change the same positions. -/
theorem search_sees_symbols_only {m : Type → Type} [Monad m] [LawfulMonad m] (text other : String) (checksum : Checksum)
    (limits : Limits) (clock : Nat → m Nat) (h : SameSymbols text other) :
    search other checksum limits clock =
        (fun outcome => { outcome with answer := outcome.answer.map fun found => { found with given := other } }) <$>
          search text checksum limits clock ∧
      repair other checksum limits = (repair text checksum limits).map (fun found => { found with given := other }) ∧
      (repair other checksum limits).map Repaired.changedPositions =
        (repair text checksum limits).map Repaired.changedPositions := by
  have hseen := h.map_seen_eq
  have hrepair : repair other checksum limits = regiven other (repair text checksum limits) := by
    rw [repair, search_eq_of_seen hseen]
    rfl
  refine ⟨search_eq_of_seen hseen clock, hrepair, ?_⟩
  rw [hrepair]
  cases repair text checksum limits with
  | ok found => rfl
  | error failure => rfl

/-- A text with a character outside ASCII at its end is repaired as the text that holds a lower-case `l` there is. -/
theorem search_sees_symbols_only_last_character :
    SameSymbols "111l" "111é" ∧ repair "111l" zeroDigest { maxChanges := 1 } = .ok (repairedAs "111l" "1111" [] 175) ∧
      repair "111é" zeroDigest { maxChanges := 1 } =
        .ok { repairedAs "111l" "1111" [] 175 with given := "111é" } := by
  have htext : "111l".toList = ['1', '1', '1', 'l'] := by decide +kernel
  have hother : "111é".toList = ['1', '1', '1', 'é'] := by decide +kernel
  have hsame : SameSymbols "111l" "111é" := by
    refine ⟨by decide +kernel, fun i hsymbol => ?_⟩
    rw [htext, hother] at *
    match i, hsymbol with
    | 0, _ | 1, _ | 2, _ => rfl
    | 3, ⟨c, hc, hhere⟩ =>
      rcases hhere with hhere | hhere
      · cases hhere
        exact absurd hc (by decide +kernel)
      · cases hhere
        exact absurd hc (by decide +kernel)
    | i + 4, _ => rfl
  have hfound := ends_wrong_last_character.repair_eq rfl
  refine ⟨hsame, hfound, ?_⟩
  rw [(search_sees_symbols_only _ _ zeroDigest { maxChanges := 1 } (fun _ => (pure 0 : Id Nat)) hsame).2.1, hfound]
  rfl

end KeyText.Repair
