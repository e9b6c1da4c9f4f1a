/-!
# Compact JSON documents

JSON values built of truth values, natural numbers, texts and objects, and their compact spelling:
no blanks, members in the order given, and in texts only quotes, backslashes and control
characters escaped.
-/

namespace RankedSql

/-- A JSON value; the members of an object keep their order. -/
inductive Json where
  | bool (value : Bool)
  | number (value : Nat)
  | text (value : String)
  | object (members : List (String × Json))

namespace Json

/-- A character as it stands inside a JSON text. -/
def escapedChar (char : Char) : List Char :=
  if char = '"' then ['\\', '"']
  else if char = '\\' then ['\\', '\\']
  else if char = '\x08' then ['\\', 'b']
  else if char = '\t' then ['\\', 't']
  else if char = '\n' then ['\\', 'n']
  else if char = '\x0c' then ['\\', 'f']
  else if char = '\r' then ['\\', 'r']
  else if char.toNat < 0x20 then
    ['\\', 'u', '0', '0', (char.toNat / 16).digitChar, (char.toNat % 16).digitChar]
  else [char]

/-- The JSON text of a string. -/
def textChars (text : String) : List Char :=
  '"' :: text.toList.flatMap escapedChar ++ ['"']

mutual

/-- The compact spelling of a value. -/
def chars : Json → List Char
  | .bool true => ['t', 'r', 'u', 'e']
  | .bool false => ['f', 'a', 'l', 's', 'e']
  | .number value => Nat.toDigits 10 value
  | .text value => textChars value
  | .object members => '\x7b' :: memberChars members ++ ['\x7d']

/-- The compact spelling of the members of an object, without the braces. -/
def memberChars : List (String × Json) → List Char
  | [] => []
  | [(name, value)] => textChars name ++ ':' :: chars value
  | (name, value) :: next :: rest =>
      textChars name ++ ':' :: chars value ++ ',' :: memberChars (next :: rest)

end

/-- The compact spelling as a string. -/
def render (value : Json) : String := String.ofList value.chars

end Json

end RankedSql
