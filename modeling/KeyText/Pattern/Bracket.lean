import KeyText.Pattern.Escape

/-!
# Brackets

The characters of which one is matched: single ones, ranges, kinds by name, brackets in brackets, and operations on all of
what stands to their left and to their right.
-/

namespace KeyText.Pattern

/-- The items read so far, the last one first, and the span of them all. -/
structure Items where
  span : Span
  items : List Item := []

/-- No items yet, at the cursor. -/
def Items.start (c : Cursor) : Items :=
  { span := c.here }

/-- Adds an item. -/
def Items.push (items : Items) (item : Item) : Items :=
  let start := if items.items.isEmpty then item.span.start else items.span.start
  ⟨⟨start, item.span.stop⟩, item :: items.items⟩

/-- The items as one. -/
def Items.toItem (items : Items) : Item :=
  match items.items with
  | [] => .empty items.span
  | [item] => item
  | several => .union items.span several.reverse

/-- An open bracket: its span with what belongs to its opening, whether it is negated, what stands to the left of an
operation, and the items behind that. -/
structure Bracket where
  opening : Span
  negated : Bool
  left? : Option Item := none
  items : Items

/-- All that stands in a bracket. Operations take from the left. -/
def Bracket.toItem (bracket : Bracket) : Item :=
  let right := bracket.items.toItem
  match bracket.left? with
  | none => right
  | some left => .operation ⟨left.span.start, right.span.stop⟩ left right

/-- Adds an item. -/
def Bracket.push (bracket : Bracket) (item : Item) : Bracket :=
  { bracket with items := bracket.items.push item }

/-- Opens a bracket, at which the cursor is. Hyphens in front stand for themselves, and so does a closing bracket if it is
the first character. -/
def Bracket.opened (bracket : Cursor) : Except Fault (Bracket × Cursor) :=
  let start := bracket.place
  let first := bracket.advance
  let negated := first.rest.head? = some '^'
  let c := if negated then first.advance else first
  if c.rest.isEmpty then fail .bracketUnclosed (c.since start)
  else
    let (hyphens, behind) := c.take (· == '-')
    let items := hyphens.foldl (fun items (x, span) => items.push (.atom (.literal span x false))) (Items.start c)
    if behind.rest.isEmpty then fail .bracketUnclosed ⟨start, start⟩
    else if hyphens.isEmpty && behind.rest.head? = some ']' then
      let items := items.push (.atom (.literal behind.char ']' false))
      let behind := behind.advance
      if behind.rest.isEmpty then fail .bracketUnclosed (behind.since start)
      else .ok ({ opening := behind.since start, negated, items }, behind)
    else .ok ({ opening := behind.since start, negated, items }, behind)

/-- The names of kinds of characters. -/
def kindNames : List String :=
  ["alnum", "alpha", "ascii", "blank", "cntrl", "digit", "graph", "lower", "print", "punct", "space", "upper", "word",
   "xdigit"]

/-- Reads a kind by its name, between brackets with colons; the cursor is at the bracket. Anything else is a bracket like any
other. -/
def namedKind? (c : Cursor) : Option (Item × Cursor) :=
  match c.rest with
  | '[' :: ':' :: text =>
    let negated := text.head? = some '^'
    let name := (if negated then text.tail else text).takeWhile (· != ':')
    let length := (if negated then 3 else 2) + name.length
    let behind := c.steps length
    match behind.strip? ":]", kindNames.contains (String.ofList name) with
    | some closed, true => some (.named (closed.since c.place) negated, closed)
    | _, _ => none
  | _ => none

/-- Reads one character or an escape. -/
def bracketAtom (c : Cursor) (x : Char) : Except Fault (Atom × Cursor) :=
  if x = '\\' then escape c else .ok (.literal c.char x false, c.step)

/-- An atom as an item: one that stands for characters. -/
def Atom.toItem (atom : Atom) : Except Fault Item :=
  match atom with
  | literal .. | shorthand .. | property _ => .ok (.atom atom)
  | dot span | anchor span | wordEdge span => fail .bracketEscape span

/-- The character that an atom as an end of a range is. -/
def Atom.rangeEnd : Atom → Except Fault Char
  | literal _ c _ => .ok c
  | a => fail .rangeEnd a.span

/-- Reads an atom or a range. A hyphen in front of a closing bracket or of another hyphen makes no range. -/
def bracketItem (bracket : Bracket) (c : Cursor) (x : Char) : Except Fault (Item × Cursor) := do
  let (first, c) ← bracketAtom c x
  let c := c.skip
  if c.rest.isEmpty then fail .bracketUnclosed bracket.opening
  else if c.rest.head? != some '-' || c.peek? == some ']' || c.peek? == some '-' then return (← first.toItem, c)
  else
    let c := c.advance
    match c.rest with
    | [] => fail .bracketUnclosed bracket.opening
    | y :: _ =>
      let (last, c) ← bracketAtom c y
      let span : Span := ⟨first.span.start, last.span.stop⟩
      let lower ← first.rangeEnd
      let upper ← last.rangeEnd
      if lower ≤ upper then return (.range span first last, c) else fail .rangeOrder span

/-- The operations: both, the left without the right, and one of the two. -/
def operators : List String :=
  ["&&", "--", "~~"]

/-- Reads on in a bracket that stands in others, the nearest first, to the end of the last, in so many rounds at most. -/
def bracketRounds : (rounds : Nat) → Bracket → (outer : List Bracket) → Cursor → Except Fault (Tree × Cursor)
  | 0, bracket, _, _ => fail .bracketUnclosed bracket.opening
  | rounds + 1, bracket, outer, c =>
    let c := c.skip
    match c.rest with
    | [] => fail .bracketUnclosed bracket.opening
    | '[' :: _ =>
      match namedKind? c with
      | some (item, c) => bracketRounds rounds (bracket.push item) outer c
      | none => do
        let (inner, c) ← Bracket.opened c
        bracketRounds rounds inner (bracket :: outer) c
    | ']' :: _ =>
      let c := c.step
      let span := c.since bracket.opening.start
      match outer with
      | [] => .ok (.bracketed span bracket.negated bracket.toItem, c)
      | parent :: outer =>
        bracketRounds rounds (parent.push (.bracketed span bracket.negated bracket.toItem)) outer c
    | x :: _ =>
      match operators.findSome? c.strip? with
      | some c => bracketRounds rounds { bracket with left? := bracket.toItem, items := .start c } outer c
      | none => do
        let (item, c) ← bracketItem bracket c x
        bracketRounds rounds (bracket.push item) outer c

/-- Reads a bracket, at which the cursor is. Every round reads a character, so there are enough. -/
def readBracket (c : Cursor) : Except Fault (Tree × Cursor) := do
  let (bracket, c) ← Bracket.opened c
  bracketRounds (c.rest.length + 1) bracket [] c

end KeyText.Pattern
