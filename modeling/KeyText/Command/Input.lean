import KeyText.Bytes.Hex
import KeyText.File.Fault
import KeyText.Text.Blank

/-!
# The input of a command

A command takes its input from the command line or from a file. Some read it as text, without the white space around it;
others as bytes, which are written in hexadecimal or stand there as they are.
-/

namespace KeyText.Command

/-- Where the input comes from. A value that is given wins over a file. -/
structure Source where
  value? : Option String := none
  file? : Option String := none
  deriving DecidableEq, Repr

/-- The files that a command may read: the bytes at a path, or why there are none. -/
abbrev Files := String → Except File.Fault (List UInt8)

/-- How bytes are written. -/
inductive InputFormat where
  /-- In hexadecimal, with any white space, and with or without `0x` in front. -/
  | hex
  /-- As they are. -/
  | raw
  deriving DecidableEq, Repr

/-- Why there is no input. -/
inductive InputError where
  | missing
  | unreadable (path : String) (fault : File.Fault)
  /-- A text that is not UTF-8. -/
  | badText (fault : Utf8.Fault)
  /-- Hexadecimal that is not UTF-8. -/
  | badHexText (fault : Utf8.Fault)
  /-- A text, already without white space and `0x`, that is no hexadecimal. -/
  | badHex (digits : String) (fault : Hex.Fault)
  deriving DecidableEq, Repr

/-- The causes of an error, from the outermost inward. -/
def InputError.causes : InputError → List String
  | .missing => ["no input data specified (use --input or --input-file)"]
  | .unreadable path fault => [s!"failed to read input file {path}", fault.message]
  | .badText fault => ["input is not valid UTF-8", fault.message]
  | .badHexText fault => ["hex input is not valid UTF-8", fault.message]
  | .badHex digits fault => [s!"invalid hex input {Quoted.text digits}", fault.message]

/-- Text without the mark that it is hexadecimal. -/
def withoutHexMark : List Char → List Char
  | '0' :: 'x' :: rest => rest
  | '0' :: 'X' :: rest => rest
  | digits => digits

/-- Reads bytes in a format. -/
def parseBytes (raw : List UInt8) : InputFormat → Except InputError (List UInt8)
  | .raw => .ok raw
  | .hex => do
    let text ← (Utf8.decode raw).mapError .badHexText
    let digits := String.ofList (withoutHexMark (squeezed text.toList))
    (Hex.decode digits).mapError (.badHex digits)

/-- The input as it is given. -/
def Source.read (files : Files) (source : Source) : Except InputError (List UInt8) :=
  match source.value?, source.file? with
  | some value, _ => .ok (Utf8.encode value)
  | none, some path => (files path).mapError (.unreadable path)
  | none, none => .error .missing

/-- The input as text, without the white space around it. -/
def Source.readText (files : Files) (source : Source) : Except InputError String := do
  let bytes ← source.read files
  let text ← (Utf8.decode bytes).mapError .badText
  return String.ofList (trimmed text.toList)

/-- The input as bytes in a format. -/
def Source.readBytes (files : Files) (source : Source) (format : InputFormat) : Except InputError (List UInt8) := do
  parseBytes (← source.read files) format

end KeyText.Command
