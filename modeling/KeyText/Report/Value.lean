import KeyText.Decimal.Layout

/-!
# Reports

What a command answers is a value with named fields in a fixed order. It is written in one of two forms: as JSON on a single
line, or as text with one line for each field, the values set in a column of their own so that texts of equal length stand
under one another.
-/

namespace KeyText.Report

/-- A value of a report. -/
inductive Value where
  | null
  | bool (b : Bool)
  | int (n : Int)
  | float (x : Float)
  | text (s : String)
  | list (items : List Value)
  | record (fields : List (String × Value))

/-- A double as a value; a double that is no finite number is no value. -/
def Value.ofFloat (x : Float) : Value :=
  if x.isFinite then .float x else .null

/-- Puts a field into a record. A key that is there keeps its place and takes the new value. -/
def put (fields : List (String × Value)) (key : String) (value : Value) : List (String × Value) :=
  if fields.any fun (k, _) => k == key then fields.map fun (k, v) => if k == key then (k, value) else (k, v)
  else fields ++ [(key, value)]

/-- A record of fields, put one after the other. -/
def Value.ofFields (fields : List (String × Value)) : Value :=
  .record (fields.foldl (fun done (key, value) => put done key value) [])

/-- How JSON writes doubles: positionally from `0.00001` to 16 digits before the point. -/
def numberLayout : Decimal.Layout :=
  ⟨-5, 15⟩

/-- One character inside a JSON string. Only the quote, the backslash and the controls are escaped. -/
def jsonItem (c : Char) : List Char :=
  match c with
  | '"' => ['\\', '"']
  | '\\' => ['\\', '\\']
  | '\x08' => ['\\', 'b']
  | '\x0c' => ['\\', 'f']
  | '\n' => ['\\', 'n']
  | '\r' => ['\\', 'r']
  | '\t' => ['\\', 't']
  | c =>
    if c.toNat < 0x20 then
      ['\\', 'u', '0', '0', if c.toNat < 0x10 then '0' else '1'] ++ Nat.toDigits 16 (c.toNat % 16)
    else [c]

/-- A text as a JSON string. -/
def jsonText (s : String) : String :=
  String.ofList ('"' :: (s.toList.flatMap jsonItem ++ ['"']))

mutual

/-- A value as JSON on one line, without blanks. -/
def Value.json : Value → String
  | .null => "null"
  | .bool b => if b then "true" else "false"
  | .int n => toString n
  | .float x => (numberLayout.double? x).getD "null"
  | .text s => jsonText s
  | .list items => "[" ++ String.intercalate "," (jsonItems items) ++ "]"
  | .record fields => "\x7b" ++ String.intercalate "," (jsonFields fields) ++ "\x7d"

/-- The items of a list as JSON. -/
def jsonItems : List Value → List String
  | [] => []
  | item :: items => item.json :: jsonItems items

/-- The fields of a record as JSON. -/
def jsonFields : List (String × Value) → List String
  | [] => []
  | (key, value) :: fields => (jsonText key ++ ":" ++ value.json) :: jsonFields fields

end

/-- Whether a value is null. -/
def Value.isNull : Value → Bool
  | .null => true
  | _ => false

/-- A value behind a key: a text as it is, anything else as JSON. -/
def Value.inline : Value → String
  | .text s => s
  | v => v.json

/-- The width of the column of keys, which is the length of the longest in UTF-8 bytes. Null fields count. -/
def keyWidth (fields : List (String × Value)) : Nat :=
  (fields.map fun (key, _) => key.utf8ByteSize).foldl max 0

/-- A text with blanks behind it up to a number of characters. -/
def padded (width : Nat) (s : String) : String :=
  s ++ String.ofList (List.replicate (width - s.length) ' ')

/-- The lines of a record: one for each field that is not null, with the values in one column. -/
def fieldLines (fields : List (String × Value)) : List String :=
  (fields.filter fun (_, value) => !value.isNull).map fun (key, value) =>
    padded (keyWidth fields) key ++ ": " ++ value.inline

mutual

/-- A value as text. The items of a list stand apart by an empty line. -/
def Value.plain : Value → String
  | .list items => String.intercalate "\n\n" (plainItems items)
  | .record fields => String.intercalate "\n" (fieldLines fields)
  | v => v.inline

/-- The items of a list as text. -/
def plainItems : List Value → List String
  | [] => []
  | item :: items => item.plain :: plainItems items

end

/-- A value in one of the two forms. -/
def render (json : Bool) (value : Value) : String :=
  if json then value.json else value.plain

/-- The JSON form of an error, given as its causes from the outermost inward. -/
def errorJson (causes : List String) : String :=
  (Value.record [("success", .bool false), ("error", .text (String.intercalate ": " causes))]).json

end KeyText.Report
