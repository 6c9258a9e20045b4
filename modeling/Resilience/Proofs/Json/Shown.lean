import Resilience.Json.Draft
import Mathlib.Data.List.Perm.Basic
import Mathlib.Data.List.Forall2

/-!
# Drafts that show a document

A draft of a whole text has the members of every object in the order they were written, and the
draft of a value in memory has them in the order of their names. Both show the document: besides that
order they say the same as the value does. In memory an object has one member for each name.

## Main definitions

* `Draft.Shows` — drafts that show a document, with members in any order
* `Json.NamesOnce` — documents in which no object has two members of one name

## Main statements

* `Draft.shows_of_complete?` — a draft without breaks shows its value
* `Json.sortedMembers_perm` — members of different names are ordered and none is lost
* `Json.shows_draft` — the draft of a value in memory shows it
-/

namespace Resilience

mutual

/-- A draft that shows a document. -/
inductive Draft.Shows : Draft → Json → Prop
  | null : Shows .null .null
  | bool (value : Bool) : Shows (.bool value) (.bool value)
  | integer (value : Int) : Shows (.integer value) (.integer value)
  | float (value : Binary64) : Shows (.float value) (.float value)
  | string (value : String) : Shows (.string value) (.string value)
  | array {drafts : List Draft} {elements : List Json} (each : Draft.ShowsEach drafts elements) :
    Shows (.array drafts true) (.array elements)
  | object {drafts : List (Option String × Draft)} {written members : List (String × Json)}
      (each : Draft.ShowsMembers drafts written) (order : written.Perm members) :
    Shows (.object drafts true) (.object members)

/-- Drafts that show the elements of an array. -/
inductive Draft.ShowsEach : List Draft → List Json → Prop
  | nil : ShowsEach [] []
  | cons {draft : Draft} {element : Json} {drafts : List Draft} {elements : List Json}
      (first : Draft.Shows draft element) (rest : Draft.ShowsEach drafts elements) :
    ShowsEach (draft :: drafts) (element :: elements)

/-- Drafts that show members in their order. -/
inductive Draft.ShowsMembers : List (Option String × Draft) → List (String × Json) → Prop
  | nil : ShowsMembers [] []
  | cons {draft : Draft} {value : Json} {drafts : List (Option String × Draft)}
      {members : List (String × Json)} (name : String) (first : Draft.Shows draft value)
      (rest : Draft.ShowsMembers drafts members) :
    ShowsMembers ((some name, draft) :: drafts) ((name, value) :: members)

end

namespace Draft

mutual

/-- A draft that does not break off shows its value. -/
theorem shows_of_complete? {draft : Draft} {json : Json} (whole : draft.complete? = some json) :
    draft.Shows json := by
  -- by the recursion of `complete?`, together with elements and members
  match draft with
  | null => cases whole; exact .null
  | bool value => cases whole; exact .bool value
  | integer value => cases whole; exact .integer value
  | float value => cases whole; exact .float value
  | string value => cases whole; exact .string value
  | array drafts ended =>
    rw [complete?] at whole
    split at whole
    · rename_i last
      obtain ⟨elements, each, rfl⟩ := Option.map_eq_some_iff.1 whole
      subst last
      exact .array (showsEach_of_complete? each)
    · cases whole
  | object drafts ended =>
    rw [complete?] at whole
    split at whole
    · rename_i last
      obtain ⟨members, each, rfl⟩ := Option.map_eq_some_iff.1 whole
      subst last
      exact .object (showsMembers_of_complete? each) (.refl members)
    · cases whole
  | valueless | broken => cases whole

theorem showsEach_of_complete? {drafts : List Draft} {elements : List Json}
    (whole : completeElements? drafts = some elements) : ShowsEach drafts elements := by
  match drafts with
  | [] => cases whole; exact .nil
  | draft :: drafts =>
    rw [completeElements?] at whole
    simp only [Option.bind_eq_bind, Option.bind_eq_some_iff, Option.some.injEq] at whole
    obtain ⟨element, first, elements, rest, rfl⟩ := whole
    exact .cons (shows_of_complete? first) (showsEach_of_complete? rest)

theorem showsMembers_of_complete? {drafts : List (Option String × Draft)}
    {members : List (String × Json)} (whole : completeMembers? drafts = some members) :
    ShowsMembers drafts members := by
  match drafts with
  | [] => cases whole; exact .nil
  | (name, draft) :: drafts =>
    rw [completeMembers?] at whole
    simp only [Option.bind_eq_bind, Option.bind_eq_some_iff, Option.some.injEq] at whole
    obtain ⟨name, rfl, value, first, members, rest, rfl⟩ := whole
    exact .cons name (shows_of_complete? first) (showsMembers_of_complete? rest)

end

section

variable {draft : Draft} {json : Json}

theorem Shows.eq_bool_iff (shown : draft.Shows json) {value : Bool} :
    draft = .bool value ↔ json = .bool value := by
  cases shown <;> simp

theorem Shows.eq_integer_iff (shown : draft.Shows json) {value : Int} :
    draft = .integer value ↔ json = .integer value := by
  cases shown <;> simp

theorem Shows.eq_float_iff (shown : draft.Shows json) {value : Binary64} :
    draft = .float value ↔ json = .float value := by
  cases shown <;> simp

theorem Shows.eq_string_iff (shown : draft.Shows json) {value : String} :
    draft = .string value ↔ json = .string value := by
  cases shown <;> simp

end

/-- Drafts of members in another order show the members in that order. -/
theorem ShowsMembers.of_perm {drafts others : List (Option String × Draft)}
    (order : drafts.Perm others) {members : List (String × Json)}
    (each : ShowsMembers drafts members) :
    ∃ written, ShowsMembers others written ∧ written.Perm members := by
  induction order generalizing members with
  | nil => exact ⟨members, each, .refl members⟩
  | cons _ _ ih =>
    cases each with
    | cons name first rest =>
      obtain ⟨written, shown, order⟩ := ih rest
      exact ⟨_, .cons name first shown, order.cons _⟩
  | swap =>
    cases each with
    | cons name first rest =>
      cases rest with
      | cons other second rest =>
        exact ⟨_, .cons other second (.cons name first rest), .swap ..⟩
  | trans _ _ first second =>
    obtain ⟨written, shown, here⟩ := first each
    obtain ⟨written, shown, there⟩ := second shown
    exact ⟨written, shown, there.trans here⟩

end Draft

namespace Json

/-! ## Values in memory -/

mutual

/-- A document in which no object has two members of one name. -/
def NamesOnce : Json → Prop
  | array elements => EachNamesOnce elements
  | object members => (members.map Prod.fst).Nodup ∧ MembersNamesOnce members
  | null | bool _ | integer _ | float _ | string _ => True

def EachNamesOnce : List Json → Prop
  | [] => True
  | element :: rest => element.NamesOnce ∧ EachNamesOnce rest

def MembersNamesOnce : List (String × Json) → Prop
  | [] => True
  | (_, value) :: rest => value.NamesOnce ∧ MembersNamesOnce rest

end

variable {α : Type}

/-- A member of a new name is put somewhere into the list. -/
theorem insertMember_perm {name : String} (value : α) {members : List (String × α)}
    (fresh : name ∉ members.map Prod.fst) :
    (insertMember name value members).Perm ((name, value) :: members) := by
  induction members with
  | nil => exact .refl _
  | cons first rest ih =>
    obtain ⟨other, present⟩ := first
    rw [List.map_cons, List.mem_cons, not_or] at fresh
    rw [insertMember, if_neg fresh.1]
    split
    · exact .refl _
    · exact ((ih fresh.2).cons _).trans (.swap ..)

theorem foldl_insertMember_perm {members : List (String × α)} (sorted : List (String × α))
    (distinct : ((sorted ++ members).map Prod.fst).Nodup) :
    (members.foldl (fun sorted (name, value) => insertMember name value sorted) sorted).Perm
      (sorted ++ members) := by
  induction members generalizing sorted with
  | nil => rw [List.append_nil]; exact .refl _
  | cons first rest ih =>
    obtain ⟨name, value⟩ := first
    have front : (sorted ++ (name, value) :: rest).Perm ((name, value) :: (sorted ++ rest)) :=
      List.perm_middle
    have names := (front.map Prod.fst).nodup_iff.1 distinct
    have fresh : name ∉ sorted.map Prod.fst := by
      rw [List.map_cons, List.nodup_cons, List.map_append, List.mem_append, not_or] at names
      exact names.1.1
    have placed := insertMember_perm value fresh
    have moved := (placed.append_right rest)
    rw [List.foldl_cons]
    refine (ih (insertMember name value sorted) ?_).trans (moved.trans front.symm)
    exact ((moved.trans front.symm).map Prod.fst).nodup_iff.2 distinct

/-- Ordering members of different names loses none of them. -/
theorem sortedMembers_perm {members : List (String × α)}
    (distinct : (members.map Prod.fst).Nodup) : (sortedMembers members).Perm members :=
  foldl_insertMember_perm [] distinct

theorem names_draftMembers (members : List (String × Json)) :
    (draftMembers members).map Prod.fst = members.map Prod.fst := by
  induction members with
  | nil => rfl
  | cons first rest ih => rw [draftMembers, List.map_cons, List.map_cons, ih]

mutual

/-- The draft of a value in memory shows it. -/
theorem shows_draft {json : Json} (once : json.NamesOnce) : json.draft.Shows json := by
  match json with
  | null => exact .null
  | bool value => exact .bool value
  | integer value => exact .integer value
  | float value => exact .float value
  | string value => exact .string value
  | array elements =>
    rw [NamesOnce] at once
    exact .array (shows_draftElements once)
  | object members =>
    rw [NamesOnce] at once
    have each := shows_draftMembers once.2
    have distinct : ((draftMembers members).map Prod.fst).Nodup := by
      rw [names_draftMembers]
      exact once.1
    obtain ⟨written, shown, order⟩ :=
      each.of_perm ((sortedMembers_perm distinct).symm.map _)
    exact .object shown order

theorem shows_draftElements {elements : List Json} (once : EachNamesOnce elements) :
    Draft.ShowsEach (draftElements elements) elements := by
  match elements with
  | [] => exact .nil
  | element :: rest =>
    rw [EachNamesOnce] at once
    exact .cons (shows_draft once.1) (shows_draftElements once.2)

theorem shows_draftMembers {members : List (String × Json)} (once : MembersNamesOnce members) :
    Draft.ShowsMembers ((draftMembers members).map fun (name, draft) => (some name, draft))
      members := by
  match members with
  | [] => exact .nil
  | (name, value) :: rest =>
    rw [MembersNamesOnce] at once
    exact .cons name (shows_draft once.1) (shows_draftMembers once.2)

end

end Json

end Resilience
