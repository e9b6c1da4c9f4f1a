import RankedSql.Text.Basic
import RankedSql.Text.Printable

/-!
# Displayed texts

Texts and lists of texts as summaries show them: between double quotes, with quotes, backslashes and
all characters that are not printable escaped.
-/

namespace RankedSql.Text

/-- A character as it stands inside a displayed text. -/
def displayedChar (char : Char) : List Char :=
  if char = '\x00' then ['\\', '0']
  else if char = '\t' then ['\\', 't']
  else if char = '\r' then ['\\', 'r']
  else if char = '\n' then ['\\', 'n']
  else if char = '\\' then ['\\', '\\']
  else if char = '"' then ['\\', '"']
  else if isPrintable char then [char]
  else ['\\', 'u', '\x7b'] ++ Nat.toDigits 16 char.toNat ++ ['\x7d']

/-- A text between double quotes. -/
def displayed (text : String) : String :=
  String.ofList ('"' :: text.toList.flatMap displayedChar ++ ['"'])

/-- A list of texts between brackets. -/
def displayedList (texts : List String) : String :=
  "[" ++ joinWith ", " (texts.map displayed) ++ "]"

end RankedSql.Text
