import Resilience.Text.Visible

/-!
# Quoted text

Descriptions show text between double quotes. Inside, the quote and the backslash are escaped by a
backslash; the null character, the tab, the line feed and the carriage return have letters of their
own; any other character without a visible form is written by its code point in hexadecimal.

## Main definitions

* `Text.quoted` — a text in quotes
* `Text.quotedOption` — an optional text, either `None` or `Some("...")`
* `Text.bracketed` — items in square brackets
-/

namespace Resilience.Text

/-- A code point in lower-case hexadecimal digits, in braces. -/
def codePointEscape (c : Char) : List Char :=
  ['\\', 'u', '\x7b'] ++ Nat.toDigits 16 c.toNat ++ ['\x7d']

/-- A character as it stands between quotes. -/
def escape (c : Char) : List Char :=
  if c = '"' then ['\\', '"']
  else if c = '\\' then ['\\', '\\']
  else if c = '\x00' then ['\\', '0']
  else if c = '\t' then ['\\', 't']
  else if c = '\n' then ['\\', 'n']
  else if c = '\r' then ['\\', 'r']
  else if isHidden c then codePointEscape c
  else [c]

/-- A text between double quotes. -/
def quoted (text : String) : String :=
  String.ofList ('"' :: text.toList.flatMap escape ++ ['"'])

/-- An optional value whose present form is given. -/
def optional (present : Option String) : String :=
  match present with
  | none => "None"
  | some text => "Some(" ++ text ++ ")"

/-- An optional text, quoted when present. -/
def quotedOption (text : Option String) : String := optional (text.map quoted)

/-- Items separated by commas in square brackets. -/
def bracketed (items : List String) : String := "[" ++ ", ".intercalate items ++ "]"

end Resilience.Text
