import KeyText.Pattern.Tree
import KeyText.Text.Blank

/-!
# Cursors

How far a pattern has been read. In a loose pattern white space and comments do not count; a comment runs from a number sign
to the end of its line.
-/

namespace KeyText.Pattern

/-- The place that reading has reached, what follows, and whether the pattern is loose here. -/
structure Cursor where
  place : Place
  rest : List Char
  loose : Bool
  deriving DecidableEq, Repr

/-- The cursor in front of a pattern. -/
def Cursor.ofText (text : List Char) : Cursor :=
  ⟨⟨1, 1⟩, text, false⟩

/-- Moves behind one character, if there is one. -/
def Cursor.step (c : Cursor) : Cursor :=
  match c.rest with
  | [] => c
  | x :: rest => { c with place := c.place.after x, rest }

/-- Moves behind some characters. -/
def Cursor.steps : Nat → Cursor → Cursor
  | 0, c => c
  | n + 1, c => c.step.steps n

/-- The place and the characters behind white space and comments. -/
def skipped : (comment : Bool) → Place → List Char → Place × List Char
  | _, place, [] => (place, [])
  | true, place, x :: rest => skipped (x != '\n') (place.after x) rest
  | false, place, x :: rest =>
    if isBlank x then skipped false (place.after x) rest
    else if x = '#' then skipped true (place.after x) rest
    else (place, x :: rest)

/-- Moves behind what does not count. -/
def Cursor.skip (c : Cursor) : Cursor :=
  if c.loose then
    let (place, rest) := skipped false c.place c.rest
    { c with place, rest }
  else c

/-- Moves behind one character and what does not count there. -/
def Cursor.advance (c : Cursor) : Cursor :=
  c.step.skip

/-- Moves behind a text, if it follows. -/
def Cursor.strip? (c : Cursor) (text : String) : Option Cursor :=
  if text.toList.isPrefixOf c.rest then some (c.steps text.length) else none

/-- The span without width at the cursor. -/
def Cursor.here (c : Cursor) : Span :=
  ⟨c.place, c.place⟩

/-- The span from a place to the cursor. -/
def Cursor.since (c : Cursor) (start : Place) : Span :=
  ⟨start, c.place⟩

/-- The span of the character that follows. -/
def Cursor.char (c : Cursor) : Span :=
  c.step.since c.place

/-- The character behind the one that follows. In a loose pattern white space is passed over, and with it one number sign; if
nothing is behind them, the first of them is the character. -/
def Cursor.peek? (c : Cursor) : Option Char :=
  let behind := c.rest.tail
  if c.loose then
    let ahead :=
      match behind.dropWhile isBlank with
      | '#' :: comment => comment.dropWhile isBlank
      | ahead => ahead
    ahead.head?.or behind.head?
  else behind.head?

/-- Takes characters as long as they are accepted, in so many rounds at most. -/
def Cursor.takeRounds (accepts : Char → Bool) : (rounds : Nat) → Cursor → List (Char × Span) × Cursor
  | 0, c => ([], c)
  | rounds + 1, c =>
    match c.rest with
    | [] => ([], c)
    | x :: _ =>
      if accepts x then
        let (taken, behind) := takeRounds accepts rounds c.advance
        ((x, c.char) :: taken, behind)
      else ([], c)

/-- Takes the characters in front that are accepted, each with its span. Every round takes one, so there are enough. -/
def Cursor.take (accepts : Char → Bool) (c : Cursor) : List (Char × Span) × Cursor :=
  c.takeRounds accepts c.rest.length

end KeyText.Pattern
