import KeyText.Pattern.Fault

/-!
# Pattern trees

What a pattern is made of. Every part knows where it stands.
-/

namespace KeyText.Pattern

/-- A part of a pattern that has no parts. -/
inductive Atom where
  /-- One character; a byte is written as two hexadecimal digits. -/
  | literal (span : Span) (c : Char) (byte : Bool)
  /-- Any character. -/
  | dot (span : Span)
  /-- The start or the end of a line or of the text. -/
  | anchor (span : Span)
  /-- The start or the end of a word, or the inside of one. -/
  | wordEdge (span : Span)
  /-- Digits, white space or letters, or all but these. -/
  | shorthand (span : Span) (negated : Bool)
  /-- The characters with a property. -/
  | property (span : Span)
  deriving DecidableEq, Repr

/-- Where an atom stands. -/
def Atom.span : Atom → Span
  | literal span .. | dot span | anchor span | wordEdge span | shorthand span _ | property span => span

/-- A part of what stands between brackets. -/
inductive Item where
  | empty (span : Span)
  | atom (a : Atom)
  /-- The characters from one to another. -/
  | range (span : Span) (first last : Atom)
  /-- Characters by the name of their kind, or all but these. -/
  | named (span : Span) (negated : Bool)
  | bracketed (span : Span) (negated : Bool) (inner : Item)
  | union (span : Span) (items : List Item)
  /-- What two items have in common, or what sets them apart. -/
  | operation (span : Span) (left right : Item)
  deriving Repr

/-- Where an item stands. -/
def Item.span : Item → Span
  | atom a => a.span
  | empty span | range span .. | named span _ | bracketed span .. | union span _ | operation span .. => span

/-- A pattern. -/
inductive Tree where
  | empty (span : Span)
  /-- Flags for what follows. -/
  | flags (span : Span) (flags : List Char)
  | atom (a : Atom)
  | bracketed (span : Span) (negated : Bool) (inner : Item)
  | repetition (span : Span) (inner : Tree)
  /-- A group, with flags for what is in it. -/
  | group (span : Span) (flags : List Char) (inner : Tree)
  | alternation (span : Span) (branches : List Tree)
  | sequence (span : Span) (parts : List Tree)
  deriving Repr

/-- Where a pattern stands. -/
def Tree.span : Tree → Span
  | atom a => a.span
  | empty span | flags span _ | bracketed span .. | repetition span _ | group span .. | alternation span _
  | sequence span _ => span

/-- Whether flags set one of them: those behind a minus sign are cleared. -/
def flagState? (flags : List Char) (flag : Char) : Option Bool :=
  if flags.contains flag then some (!(flags.takeWhile (· != flag)).contains '-') else none

end KeyText.Pattern
