import Resilience.Binary64

/-!
# JSON values

A number without a fraction or an exponent that fits 64 bits is an integer, and every other number
is a binary64 number. Objects keep their members in the order they were written.

## Main definitions

* `Json` — JSON values
* `Json.member?` — the value of a member; of members with one name the last counts
* `Json.sortedMembers` — members by name, one for each name

## Main statements

* `Json.sizeOf_member` — recursion on members ends
-/

namespace Resilience

/-- A JSON value. -/
inductive Json where
  | null
  | bool (value : Bool)
  | integer (value : Int)
  | float (value : Binary64)
  | string (value : String)
  | array (elements : List Json)
  | object (members : List (String × Json))
  deriving Inhabited, Repr

namespace Json

/-- Puts a member into a list ordered by name, in place of an earlier one of the same name. -/
def insertMember {α : Type} (name : String) (value : α) : List (String × α) → List (String × α)
  | [] => [(name, value)]
  | (other, present) :: rest =>
    if name = other then (name, value) :: rest
    else if name < other then (name, value) :: (other, present) :: rest
    else (other, present) :: insertMember name value rest

/-- Members ordered by name, by code points; of several members with one name the last one stays. -/
def sortedMembers {α : Type} (members : List (String × α)) : List (String × α) :=
  members.foldl (fun sorted (name, value) => insertMember name value sorted) []

/-- The value of an object's member, if there is one. -/
def member? (json : Json) (name : String) : Option Json :=
  match json with
  | object members => (members.reverse.find? (·.1 = name)).map (·.2)
  | _ => none

/-- A member is smaller than the object that holds it. -/
theorem sizeOf_member {json value : Json} {name : String} (h : json.member? name = some value) :
    sizeOf value < sizeOf json := by
  cases json with
  | object members =>
    obtain ⟨member, found, rfl⟩ := Option.map_eq_some_iff.1 h
    have held : member ∈ members := List.mem_reverse.1 (List.mem_of_find?_eq_some found)
    have inside := List.sizeOf_lt_of_mem held
    rcases member with ⟨other, value⟩
    simp only [Prod.mk.sizeOf_spec] at inside
    simp only [object.sizeOf_spec]
    omega
  | _ => simp [member?] at h

/-- A natural number. -/
def natural (n : Nat) : Json := integer n

/-- An optional value, null when absent. -/
def ofOption {α : Type} (present : α → Json) : Option α → Json
  | none => null
  | some value => present value

/-- An optional text, null when absent. -/
def ofText? (text : Option String) : Json := ofOption string text

/-- A list of texts. -/
def ofTexts (texts : List String) : Json := array (texts.map string)

end Json

end Resilience
