import Resilience.Json.Basic

/-!
# Lenient access to JSON values

Requests are read leniently: a value that is missing or of another kind than the one asked for reads
as absent, and where no absence can be shown, as the empty value of its kind.

## Main definitions

* `Json.toText?`, `toNat?`, `toList`, … — a value as one of a kind
* `Json.get`, `Json.given?` — a member, null when it is missing, or absent when it is null
* `Json.str`, `nat`, `flag`, `items`, … — a member as a value of a kind
-/

namespace Resilience.Json

/-! ## Values -/

def toText? : Json → Option String
  | string text => some text
  | _ => none

def toNat? : Json → Option Nat
  | integer n => some n.toNat
  | _ => none

def toBool? : Json → Option Bool
  | bool value => some value
  | _ => none

def toInt : Json → Int
  | integer n => n
  | _ => 0

def toList : Json → List Json
  | array elements => elements
  | _ => []

def toMembers : Json → List (String × Json)
  | object members => members
  | _ => []

/-- A number; those that JSON cannot express are written as texts. -/
def toFloat : Json → Binary64
  | integer n => Binary64.ofInt n
  | float x => x
  | string "NaN" => .nan
  | string "inf" => .infinity false
  | string "-inf" => .infinity true
  | string "-0" => .finite true 0
  | _ => 0

def toText (json : Json) : String := json.toText?.getD ""

def toNat (json : Json) : Nat := json.toNat?.getD 0

/-! ## Members -/

/-- A member, null when it is missing. -/
def get (json : Json) (name : String) : Json := (json.member? name).getD null

/-- A member that is neither missing nor null. -/
def given? (json : Json) (name : String) : Option Json :=
  match json.get name with
  | null => none
  | value => some value

def str? (json : Json) (name : String) : Option String := (json.get name).toText?

def str (json : Json) (name : String) (absent : String := "") : String :=
  (json.str? name).getD absent

def nat? (json : Json) (name : String) : Option Nat := (json.get name).toNat?

def nat (json : Json) (name : String) : Nat := (json.get name).toNat

def flag (json : Json) (name : String) (absent : Bool := false) : Bool :=
  (json.get name).toBool?.getD absent

def items (json : Json) (name : String) : List Json := (json.get name).toList

end Resilience.Json
