import Resilience.Text.Quoted

/-!
# Records as text

A record is shown by its name and its fields in braces. An open record ends in two points that stand
for fields not shown.

## Main definitions

* `Text.record` — a record with all of its fields
* `Text.openRecord` — a record with some of its fields
-/

namespace Resilience.Text

/-- The fields of a record, separated by commas. -/
def fieldTexts (fields : List (String × String)) : List String :=
  fields.map fun (name, value) => name ++ ": " ++ value

/-- A record with all of its fields. -/
def record (name : String) (fields : List (String × String)) : String :=
  name ++ " \x7b " ++ ", ".intercalate (fieldTexts fields) ++ " \x7d"

/-- A record with some of its fields. -/
def openRecord (name : String) (fields : List (String × String)) : String :=
  name ++ " \x7b " ++ ", ".intercalate (fieldTexts fields ++ [".."]) ++ " \x7d"

end Resilience.Text
