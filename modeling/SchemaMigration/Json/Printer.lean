import SchemaMigration.Text.Numeral

/-!
# JSON values and their text

An object is the list of its fields as they stand in the text, so that a field given twice shows.
-/

namespace SchemaMigration

/--
A text, or nothing for one whose escapes name half a surrogate pair. Such a text has no characters
to give; it does no harm where it is skipped.
-/
abbrev JsonText := Option String

/-- A JSON value. Numbers keep the text that they were written with. -/
inductive Json where
  | null
  | bool (b : Bool)
  | number (text : String)
  | text (t : JsonText)
  | array (items : List Json)
  | object (fields : List (JsonText × Json))

instance : Inhabited Json := ⟨.null⟩

namespace Json

def str (s : String) : Json := .text (some s)

def nat (n : Nat) : Json := .number (decimalText n)

def record (fields : List (String × Json)) : Json :=
  .object (fields.map fun (key, value) => (some key, value))

def orNull {α : Type} (encode : α → Json) : Option α → Json
  | none => .null
  | some a => encode a

/-!
## Writing

One line, no blanks. In a text only quotes, backslashes and control characters are escaped.
-/

/-- The characters that a character is written with. -/
def escapeChar (c : Char) : List Char :=
  if c = '"' then ['\\', '"']
  else if c = '\\' then ['\\', '\\']
  else if c = '\n' then ['\\', 'n']
  else if c = '\r' then ['\\', 'r']
  else if c = '\t' then ['\\', 't']
  else if c = '\x08' then ['\\', 'b']
  else if c = '\x0c' then ['\\', 'f']
  else if c.toNat < 32 then '\\' :: 'u' :: hexDigits 4 c.toNat
  else [c]

/-- A text in quotes. A text that has no characters to give is written as an empty one. -/
def textChars (t : JsonText) : List Char :=
  '"' :: ((t.getD "").toList.flatMap escapeChar ++ ['"'])

mutual

/-- A value as it is written, without blanks. -/
def chars : Json → List Char
  | null => "null".toList
  | bool true => "true".toList
  | bool false => "false".toList
  | number t => t.toList
  | text t => textChars t
  | array items => '[' :: (itemChars items ++ [']'])
  | object fields => '\x7b' :: (fieldChars fields ++ ['\x7d'])

def itemChars : List Json → List Char
  | [] => []
  | [v] => v.chars
  | v :: rest => v.chars ++ ',' :: itemChars rest

def fieldChars : List (JsonText × Json) → List Char
  | [] => []
  | [(key, v)] => textChars key ++ ':' :: v.chars
  | (key, v) :: rest => textChars key ++ ':' :: (v.chars ++ ',' :: fieldChars rest)

end

def render (v : Json) : String := String.ofList v.chars

end Json

end SchemaMigration
