import Resilience.Json.Basic
import Resilience.Binary64.Decimal

/-!
# The text of JSON values

Values are written without blanks. In strings the quote and the backslash are escaped by a
backslash, and control characters by their letter or by four hexadecimal digits.

## Main definitions

* `Json.stringText` — a string between quotes
* `Json.text` — the text of a value
-/

namespace Resilience.Json

/-- Four hexadecimal digits. -/
def hex4 (n : Nat) : List Char :=
  [Nat.digitChar (n / 4096 % 16), Nat.digitChar (n / 256 % 16), Nat.digitChar (n / 16 % 16),
    Nat.digitChar (n % 16)]

/-- A character as it stands in a JSON string. -/
def escape (c : Char) : List Char :=
  if c = '"' then ['\\', '"']
  else if c = '\\' then ['\\', '\\']
  else if c = '\n' then ['\\', 'n']
  else if c = '\r' then ['\\', 'r']
  else if c = '\t' then ['\\', 't']
  else if c.toNat < 0x20 then ['\\', 'u'] ++ hex4 c.toNat
  else [c]

/-- A string between quotes. -/
def stringText (value : String) : String :=
  String.ofList ('"' :: value.toList.flatMap escape ++ ['"'])

mutual

/-- The text of a value. Numbers without a value have no JSON form and become null. -/
def text : Json → String
  | null => "null"
  | bool true => "true"
  | bool false => "false"
  | integer value => toString value
  | float value => if value.isFinite then value.text .literal else "null"
  | string value => stringText value
  | array elements => "[" ++ ",".intercalate (elementTexts elements) ++ "]"
  | object members => "\x7b" ++ ",".intercalate (memberTexts members) ++ "\x7d"

def elementTexts : List Json → List String
  | [] => []
  | element :: rest => element.text :: elementTexts rest

def memberTexts : List (String × Json) → List String
  | [] => []
  | (name, value) :: rest => (stringText name ++ ":" ++ value.text) :: memberTexts rest

end

end Resilience.Json
