import KeyText.Pattern.Reader

/-!
# Sound patterns

What a pattern that can be read has to meet before it is used. It is not nested too deep; it matches nothing but text; and it
needs no tables of Unicode, as there are none here: neither properties of characters, nor digits, white space and letters
beyond ASCII, nor letters in either case. At last, where words begin and end can be told for ASCII only.
-/

namespace KeyText.Pattern

/-! ## Depth -/

/-- Goes one level deeper. -/
def enter (allowed : Nat) (span : Span) : Except Fault Nat :=
  match allowed with
  | 0 => fail .tooDeep span
  | allowed + 1 => .ok allowed

mutual

/-- Checks that an item is not nested deeper than so many levels. -/
def Item.checkDepth (allowed : Nat) : Item → Except Fault Unit
  | empty _ | atom _ | range .. | named .. => .ok ()
  | bracketed span _ inner => do inner.checkDepth (← enter allowed span)
  | union span items => do Item.checkDepths (← enter allowed span) items
  | operation span left right => do
    let allowed ← enter allowed span
    left.checkDepth allowed
    right.checkDepth allowed

/-- Checks the depth of items, one after the other. -/
def Item.checkDepths (allowed : Nat) : List Item → Except Fault Unit
  | [] => .ok ()
  | item :: items => do
    item.checkDepth allowed
    Item.checkDepths allowed items

end

mutual

/-- Checks that a pattern is not nested deeper than so many levels. -/
def Tree.checkDepth (allowed : Nat) : Tree → Except Fault Unit
  | empty _ | flags .. | atom _ => .ok ()
  | bracketed span _ inner => do inner.checkDepth (← enter allowed span)
  | repetition span inner => do inner.checkDepth (← enter allowed span)
  | group span _ inner => do inner.checkDepth (← enter allowed span)
  | alternation span branches => do Tree.checkDepths (← enter allowed span) branches
  | sequence span parts => do Tree.checkDepths (← enter allowed span) parts

/-- Checks the depth of patterns, one after the other. -/
def Tree.checkDepths (allowed : Nat) : List Tree → Except Fault Unit
  | [] => .ok ()
  | tree :: trees => do
    tree.checkDepth allowed
    Tree.checkDepths allowed trees

end

/-! ## Characters -/

/-- How characters are matched: in either case or as they are, as characters or as bytes. -/
structure Mode where
  eitherCase : Bool := false
  unicode : Bool := true
  deriving DecidableEq, Repr

/-- The mode that flags make of another. -/
def Mode.with (mode : Mode) (flags : List Char) : Mode :=
  ⟨(flagState? flags 'i').getD mode.eitherCase, (flagState? flags 'u').getD mode.unicode⟩

/-- Whether a mode asks for the two cases of letters beyond ASCII. -/
def Mode.needsCases (mode : Mode) : Bool :=
  mode.unicode && mode.eitherCase

/-- Checks an atom. A byte beyond ASCII is no text. -/
def Atom.check (mode : Mode) : Atom → Except Fault Unit
  | literal span c byte =>
    if mode.needsCases then fail .caseUnknown span
    else if !mode.unicode && byte && 128 ≤ c.toNat then fail .invalidText span
    else .ok ()
  | dot span => if mode.unicode then .ok () else fail .invalidText span
  | anchor _ | wordEdge _ => .ok ()
  | shorthand span negated =>
    if mode.unicode then fail .shorthandUnknown span
    else if negated then fail .invalidText span
    else .ok ()
  | property span => if mode.unicode then fail .propertyUnknown span else fail .unicodeForbidden span

/-- Whether an atom is a word edge. -/
def Atom.isWordEdge : Atom → Bool
  | wordEdge _ => true
  | _ => false

/-- Checks an atom in brackets, where bytes are ASCII. -/
def Atom.checkInBrackets (mode : Mode) : Atom → Except Fault Unit
  | literal span c byte =>
    if mode.unicode || c.toNat < 128 then .ok ()
    else if byte then fail .invalidText span
    else fail .unicodeForbidden span
  | a => a.check mode

/-- Checks a bracket whose items are sound; whether there are single characters among these is given. What a negated bracket
of bytes matches is no text. -/
def checkBracket (mode : Mode) (span : Span) (negated characters : Bool) : Except Fault Unit :=
  if mode.needsCases && characters then fail .caseUnknown span
  else if !mode.unicode && negated then fail .invalidText span
  else .ok ()

mutual

/-- Checks an item, and tells whether there are single characters in it. -/
def Item.check (mode : Mode) : Item → Except Fault Bool
  | empty _ => .ok false
  | atom a => do
    a.checkInBrackets mode
    return true
  | range _ first last => do
    first.checkInBrackets mode
    last.checkInBrackets mode
    return true
  | named span negated => do
    checkBracket mode span negated true
    return true
  | bracketed span negated inner => do
    let characters ← inner.check mode
    checkBracket mode span negated characters
    return characters
  | union _ items => Item.checkAll mode items
  | operation _ left right => do
    let leftCharacters ← left.check mode
    let rightCharacters ← right.check mode
    if mode.needsCases && rightCharacters then fail .caseUnknown right.span
    else if mode.needsCases && leftCharacters then fail .caseUnknown left.span
    else return leftCharacters || rightCharacters

/-- Checks items one after the other, and tells whether there are single characters in one. -/
def Item.checkAll (mode : Mode) : List Item → Except Fault Bool
  | [] => .ok false
  | item :: items => do
    let characters ← item.check mode
    return characters || (← Item.checkAll mode items)

end

mutual

/-- Checks a pattern in a mode, and tells the mode behind it and whether it asks where words beyond ASCII begin or end. -/
def Tree.check (mode : Mode) : Tree → Except Fault (Mode × Bool)
  | empty _ => .ok (mode, false)
  | flags _ given => .ok (mode.with given, false)
  | atom a => do
    a.check mode
    return (mode, mode.unicode && a.isWordEdge)
  | bracketed span negated inner => do
    checkBracket mode span negated (← inner.check mode)
    return (mode, false)
  | repetition _ inner => inner.check mode
  | group _ given inner => do
    let (_, words) ← inner.check (mode.with given)
    return (mode, words)
  | alternation _ branches => Tree.checkAll mode branches
  | sequence _ parts => Tree.checkAll mode parts

/-- Checks patterns one after the other. The mode goes on from each to the next. -/
def Tree.checkAll (mode : Mode) : List Tree → Except Fault (Mode × Bool)
  | [] => .ok (mode, false)
  | tree :: trees => do
    let (mode, words) ← tree.check mode
    let (mode, more) ← Tree.checkAll mode trees
    return (mode, words || more)

end

/-! ## The whole check -/

/-- Why a pattern cannot be used. -/
inductive Refusal where
  | fault (f : Fault)
  /-- It asks where words beyond ASCII begin or end. -/
  | words
  deriving DecidableEq, Repr

/-- Checks a pattern. -/
def check (text : List Char) : Except Refusal Unit := do
  let tree ← (read text).mapError .fault
  (tree.checkDepth depthLimit).mapError .fault
  let (_, words) ← (tree.check {}).mapError .fault
  if words then .error .words else .ok ()

/-- The causes of a refusal, from the outermost inward. -/
def Refusal.causes (text : List Char) : Refusal → List String
  | fault f => ["error building NFA", "error parsing regex", f.message text]
  | words =>
    ["unsupported regex feature for DFAs: cannot build DFAs for regexes with Unicode word boundaries; switch to ASCII " ++
      "word boundaries, or heuristically enable Unicode word boundaries or use a different regex engine"]

end KeyText.Pattern
