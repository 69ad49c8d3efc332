import KeyText.Pattern.Cursor
import KeyText.Text.Alphanumeric

/-!
# Openings of groups

What follows an opening parenthesis: the name of a group, or flags for the group or for what follows.
-/

namespace KeyText.Pattern

/-- The letters of flags: either case, many lines, dot for all, swapped greed, Unicode, carriage returns, loose. -/
def flagLetters : List Char :=
  ['i', 'm', 's', 'U', 'u', 'R', 'x']

/-- Reads flags to the colon or the closing parenthesis behind them. No flag and no minus sign is given twice. -/
def readFlags (given : List (Char × Span)) (place : Place) (loose : Bool) :
    List Char → Except Fault (List (Char × Span) × Cursor)
  | [] => fail .flagsUnfinished ⟨place, place⟩
  | x :: rest =>
    let span : Span := ⟨place, place.after x⟩
    if x = ':' ∨ x = ')' then
      match given.getLast? with
      | some ('-', minus) => fail .minusDangling minus
      | _ => .ok (given, ⟨place, x :: rest, loose⟩)
    else if x ≠ '-' ∧ x ∉ flagLetters then fail .flagUnknown span
    else
      match given.lookup x with
      | some earlier => .error ⟨if x = '-' then .minusRepeated else .flagRepeated, span, some earlier⟩
      | none => readFlags (given ++ [(x, span)]) (place.after x) loose rest

/-- Whether a character may stand in the name of a group, as the first of it or behind that. -/
def isNameCharacter (first : Bool) (c : Char) : Bool :=
  if first then c == '_' || Alphanumeric.isLetter c
  else c == '_' || c == '.' || c == '[' || c == ']' || Alphanumeric.holds c

/-- Reads a name to the angle bracket behind it. -/
def readName (name : List Char) (place : Place) (loose : Bool) : List Char → Except Fault (String × Cursor)
  | [] => fail .nameUnclosed ⟨place, place⟩
  | x :: rest =>
    if x = '>' then .ok (String.ofList name, ⟨place, x :: rest, loose⟩)
    else if isNameCharacter name.isEmpty x then readName (name ++ [x]) (place.after x) loose rest
    else fail .nameCharacter ⟨place, place.after x⟩

/-- What an opening parenthesis begins. -/
inductive Opening where
  /-- Flags for what follows them. -/
  | flags (span : Span) (flags : List Char)
  /-- A group with flags for it; the span is that of the parenthesis. -/
  | group (span : Span) (flags : List Char)
  /-- A group with a name, and where the name stands. -/
  | named (span : Span) (name : String) (nameSpan : Span)
  deriving DecidableEq, Repr

/-- The beginnings of groups that look ahead or back, which there are not. -/
def lookArounds : List String :=
  ["?=", "?!", "?<=", "?<!"]

/-- Reads the name of a group. No two groups have one name. -/
def namedOpening (names : List (String × Span)) (parenthesis : Span) (c : Cursor) : Except Fault (Opening × Cursor) := do
  let (name, behind) ← readName [] c.place c.loose c.rest
  let span := behind.since c.place
  if name.isEmpty then fail .nameEmpty c.here
  else
    match names.lookup name with
    | some earlier => .error ⟨.nameRepeated, span, some earlier⟩
    | none => return (.named parenthesis name span, behind.step)

/-- Reads the flags behind a question mark, at which the cursor is. -/
def flaggedOpening (parenthesis : Span) (mark : Cursor) : Except Fault (Opening × Cursor) := do
  let c := mark.step
  if c.rest.isEmpty then fail .groupUnclosed parenthesis
  else
    let (given, ending) ← readFlags [] c.place c.loose c.rest
    let flags := given.map Prod.fst
    let behind := ending.step
    if ending.rest.head? = some ':' then return (.group parenthesis flags, behind)
    else if flags.isEmpty then fail .repetitionMissing mark.here
    else return (.flags (behind.since parenthesis.start) flags, behind)

/-- Reads what an opening parenthesis begins, at which the cursor is. -/
def readOpening (names : List (String × Span)) (parenthesis : Cursor) : Except Fault (Opening × Cursor) :=
  let span := parenthesis.char
  let c := parenthesis.advance
  match lookArounds.findSome? c.strip? with
  | some behind => fail .lookAround (behind.since span.start)
  | none =>
    match (c.strip? "?P<").or (c.strip? "?<"), c.rest with
    | some name, _ => namedOpening names span name
    | none, '?' :: _ => flaggedOpening span c
    | none, _ => .ok (.group span [], c)

end KeyText.Pattern
