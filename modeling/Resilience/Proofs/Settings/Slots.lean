import Resilience.Proofs.Settings.Shapes

/-!
# Records of slots

Settings are records of slots, each with a name, a shape and a place in the record. A document
describes a record if each of its members goes to a slot and fits its shape, with what the record
holds there for a value, and if all other slots are as they were at the start. The decoder of the
record finds that record for a document with named members, whatever their order, and for an array
it does what it does for the members with the names in order; it accepts nothing else.

## Main definitions

* `Slot`, `Slot.field` — a place in a record, and the field that is decoded there
* `Slot.Hold` — slots that are all there is to a record
* `Slot.Describes` — the record that members describe
* `Slot.Admits` — members that describe some record

## Main statements

* `Slot.decode_object_ok_iff` — an object is decoded to the record it describes
* `Slot.decode_array_ok_iff` — an array as well, by position
-/

namespace Resilience

/-- A place in a record. -/
structure Slot (σ : Type) where
  name : String
  shape : Shape
  get : σ → shape.Value
  set : σ → shape.Value → σ

namespace Slot

variable {σ : Type}

/-- The field that is decoded and put into the slot. -/
def field (slot : Slot σ) : Field σ := .of slot.name slot.shape.decoder slot.set

/-- The member that holds what is in the slot. -/
def member (record : σ) (slot : Slot σ) : String × Json :=
  (slot.name, slot.shape.write (slot.get record))

/-- Slots of different names that do not meet and leave nothing of a record out. -/
structure Hold (slots : List (Slot σ)) : Prop where
  distinct : (slots.map name).Nodup
  get_set : ∀ slot ∈ slots, ∀ record value, slot.get (slot.set record value) = value
  get_set_other : ∀ slot ∈ slots, ∀ other ∈ slots, slot.name ≠ other.name →
    ∀ record value, other.get (slot.set record value) = other.get record
  ext : ∀ first second : σ, (∀ slot ∈ slots, slot.get first = slot.get second) → first = second

/-- Members each of which goes to a slot and fits it. -/
def Admits (slots : List (Slot σ)) (members : List (String × Json)) : Prop :=
  ∀ member ∈ members, ∃ slot ∈ slots, slot.name = member.1 ∧
    ∃ value, slot.shape.Fits member.2 value

/-- The record that members describe, given how the record is at the start. -/
structure Describes (slots : List (Slot σ)) (start : σ) (members : List (String × Json))
    (record : σ) : Prop where
  given : ∀ member ∈ members, ∃ slot ∈ slots, slot.name = member.1 ∧
    slot.shape.Fits member.2 (slot.get record)
  left : ∀ slot ∈ slots, slot.name ∉ members.map Prod.fst → slot.get record = slot.get start

/-- Putting one member after the other into its slot. -/
inductive Fills (slots : List (Slot σ)) : List (String × Json) → σ → σ → Prop
  | nil (record : σ) : Fills slots [] record record
  | cons {slot : Slot σ} {json : Json} {value : slot.shape.Value}
      {members : List (String × Json)} {record filled : σ} (listed : slot ∈ slots)
      (fits : slot.shape.Fits json value)
      (rest : Fills slots members (slot.set record value) filled) :
    Fills slots ((slot.name, json) :: members) record filled

variable {slots : List (Slot σ)} {members others : List (String × Json)} {start record filled : σ}
  {medium : Medium}

/-! ## Descriptions -/

theorem Describes.admits (describes : Describes slots start members record) :
    Admits slots members := by
  intro member listed
  obtain ⟨slot, known, named, fits⟩ := describes.given member listed
  exact ⟨slot, known, named, _, fits⟩

/-- The order of members says nothing. -/
theorem Describes.of_perm (describes : Describes slots start members record)
    (order : members.Perm others) : Describes slots start others record where
  given member listed := describes.given member (order.mem_iff.2 listed)
  left slot known absent := describes.left slot known fun listed =>
    absent ((order.map Prod.fst).mem_iff.1 listed)

/-- All members of a record describe it, whatever it was at the start. -/
theorem describes_members (start record : σ) :
    Describes slots start (slots.map (member record)) record := by
  constructor
  · intro held listed
    obtain ⟨slot, known, rfl⟩ := List.mem_map.1 listed
    exact ⟨slot, known, rfl, slot.shape.fits_write _⟩
  · intro slot known absent
    refine absurd ?_ absent
    rw [List.map_map]
    exact List.mem_map_of_mem known

/-- Admitted members fill in something. -/
theorem Admits.exists_fills (admits : Admits slots members) (start : σ) :
    ∃ filled, Fills slots members start filled := by
  induction members generalizing start with
  | nil => exact ⟨start, .nil start⟩
  | cons first rest ih =>
    obtain ⟨name, json⟩ := first
    obtain ⟨slot, listed, rfl, value, fits⟩ := admits (name, json) List.mem_cons_self
    obtain ⟨filled, fills⟩ := ih (fun member held => admits member (List.mem_cons_of_mem _ held))
      (slot.set start value)
    exact ⟨filled, .cons listed fits fills⟩

namespace Hold

variable (hold : Hold slots)
include hold

/-- A name tells its slot. -/
theorem eq_of_name {slot other : Slot σ} (known : slot ∈ slots) (listed : other ∈ slots)
    (same : slot.name = other.name) : slot = other :=
  List.inj_on_of_nodup_map hold.distinct known listed same

/-- Members describe one record at most. -/
theorem describes_unique (first : Describes slots start members record)
    (second : Describes slots start members filled) : record = filled := by
  refine hold.ext record filled fun slot known => ?_
  by_cases present : slot.name ∈ members.map Prod.fst
  · obtain ⟨member, listed, named⟩ := List.mem_map.1 present
    obtain ⟨here, found, same, fits⟩ := first.given member listed
    obtain rfl := hold.eq_of_name found known (same.trans named)
    obtain ⟨there, found, same, other⟩ := second.given member listed
    obtain rfl := hold.eq_of_name found known (same.trans named)
    exact fits.unique other
  · rw [first.left slot known present, second.left slot known present]

/-- What members fill in is what they describe. -/
theorem describes_of_fills (fills : Fills slots members start filled)
    (distinct : (members.map Prod.fst).Nodup) : Describes slots start members filled := by
  induction fills with
  | nil record => exact ⟨List.forall_mem_nil _, fun _ _ _ => rfl⟩
  | cons listed fits rest ih =>
    rename_i slot json value members record filled
    rw [List.map_cons, List.nodup_cons] at distinct
    have others := ih distinct.2
    constructor
    · intro member held
      rcases List.mem_cons.1 held with rfl | held
      · refine ⟨slot, listed, rfl, ?_⟩
        rw [others.left slot listed distinct.1, hold.get_set slot listed]
        exact fits
      · exact others.given member held
    · intro other known absent
      rw [List.map_cons, List.mem_cons, not_or] at absent
      rw [others.left other known absent.2]
      exact hold.get_set_other slot listed other known (Ne.symm absent.1) record value

theorem fills_iff (distinct : (members.map Prod.fst).Nodup) :
    Fills slots members start record ↔ Describes slots start members record := by
  refine ⟨fun fills => hold.describes_of_fills fills distinct, fun describes => ?_⟩
  obtain ⟨filled, fills⟩ := describes.admits.exists_fills start
  rwa [hold.describes_unique describes (hold.describes_of_fills fills distinct)]

omit hold in
theorem fills_nil_iff : Fills slots [] start record ↔ start = record := by
  constructor
  · intro fills
    cases fills
    rfl
  · rintro rfl
    exact .nil start

/-- The first member goes to the slot of its name. -/
theorem fills_cons_iff {slot : Slot σ} (known : slot ∈ slots) {json : Json} :
    Fills slots ((slot.name, json) :: members) start record ↔
      ∃ value, slot.shape.Fits json value ∧ Fills slots members (slot.set start value) record := by
  constructor
  · intro fills
    generalize same : slot.name = sought at fills
    cases fills with
    | cons listed fits rest =>
      obtain rfl := hold.eq_of_name known listed same
      exact ⟨_, fits, rest⟩
  · rintro ⟨value, fits, rest⟩
    exact .cons known fits rest

end Hold

/-! ## Objects and arrays -/

/-- Defaults for what is left out, and no other members. -/
def rules : RecordRules := ⟨true, true⟩

theorem read_field_ok_iff {slot : Slot σ} {draft : Draft} {json : Json} (shown : draft.Shows json) :
    slot.field.read medium draft start = .ok record ↔
      ∃ value, slot.shape.Fits json value ∧ slot.set start value = record := by
  simp only [field, Field.of, DecodeError.map_ok_iff, Shape.decoder_ok_iff shown]

/-- Reading goes on from the record with the value in its slot. -/
theorem read_field_bind_ok_iff {β : Type} {slot : Slot σ} {draft : Draft} {json : Json}
    (shown : draft.Shows json) {next : σ → Except DecodeError β} {answer : β} :
    (slot.field.read medium draft start).bind next = .ok answer ↔
      ∃ value, slot.shape.Fits json value ∧ next (slot.set start value) = .ok answer := by
  cases read : slot.field.read medium draft start with
  | error fault =>
    refine iff_of_false nofun ?_
    rintro ⟨value, fits, -⟩
    rw [(read_field_ok_iff shown).2 ⟨value, fits, rfl⟩] at read
    cases read
  | ok record =>
    obtain ⟨value, fits, rfl⟩ := (read_field_ok_iff shown).1 read
    refine ⟨fun answered => ⟨value, fits, answered⟩, ?_⟩
    rintro ⟨other, again, answered⟩
    rwa [fits.unique again]

theorem find?_field (slots : List (Slot σ)) (sought : String) :
    (slots.map field).find? (·.name = sought) = (slots.find? (·.name = sought)).map field :=
  List.find?_map ..

theorem map_fst_zip_sublist {α β : Type} (names : List α) (values : List β) :
    ((names.zip values).map Prod.fst).Sublist names := by
  induction names generalizing values with
  | nil => exact .slnil
  | cons name names ih =>
    cases values with
    | nil => exact List.nil_sublist _
    | cons value values => exact (ih values).cons_cons name

namespace Hold

variable (hold : Hold slots)
include hold

theorem find?_of_mem {slot : Slot σ} (known : slot ∈ slots) :
    slots.find? (·.name = slot.name) = some slot := by
  cases found : slots.find? (·.name = slot.name) with
  | none => simpa using List.find?_eq_none.1 found slot known
  | some other =>
    have named : other.name = slot.name := by simpa using List.find?_some found
    rw [hold.eq_of_name (List.mem_of_find?_eq_some found) known named]

theorem readMembers_cons {slot : Slot σ} (known : slot ∈ slots) {seen : List String}
    (unseen : slot.name ∉ seen) (draft : Draft) (drafts : List (Option String × Draft)) :
    readMembers rules (slots.map field) medium ((some slot.name, draft) :: drafts) seen start =
      (slot.field.read medium draft start).bind
        (readMembers rules (slots.map field) medium drafts (slot.name :: seen)) := by
  have named : slot.field.name = slot.name := rfl
  rw [readMembers, find?_field, hold.find?_of_mem known]
  simp only [Option.map_some, if_neg unseen]
  cases slot.field.read medium draft start <;> rfl

/-- Reading members puts each of them into its slot. -/
theorem readMembers_ok_iff {drafts : List (Option String × Draft)}
    (shown : Draft.ShowsMembers drafts members) (distinct : (members.map Prod.fst).Nodup)
    {seen : List String} (fresh : ∀ name ∈ members.map Prod.fst, name ∉ seen) :
    (∃ names, readMembers rules (slots.map field) medium drafts seen start = .ok (names, record)) ↔
      Fills slots members start record := by
  induction drafts generalizing members seen start with
  | nil =>
    cases shown
    rw [readMembers, fills_nil_iff]
    simp
  | cons _ drafts ih =>
    cases shown with
    | cons name first rest =>
      rename_i draft json members
      rw [List.map_cons, List.nodup_cons] at distinct
      have unseen : name ∉ seen := fresh name List.mem_cons_self
      -- the names that are still to come are none of those that were seen
      have later : ∀ other ∈ members.map Prod.fst, other ∉ name :: seen := by
        intro other held again
        rcases List.mem_cons.1 again with rfl | again
        · exact distinct.1 held
        · exact fresh other (List.mem_cons_of_mem _ held) again
      cases found : slots.find? (·.name = name) with
      | none =>
        refine iff_of_false ?_ fun fills => ?_
        · rintro ⟨names, accepted⟩
          rw [readMembers, find?_field, found] at accepted
          cases accepted
        · cases fills with
          | cons known =>
            rw [hold.find?_of_mem known] at found
            cases found
      | some slot =>
        have known := List.mem_of_find?_eq_some found
        obtain rfl : slot.name = name := by simpa using List.find?_some found
        rw [hold.fills_cons_iff known]
        simp only [hold.readMembers_cons known unseen, read_field_bind_ok_iff first,
          ← ih rest distinct.2 later]
        exact ⟨fun ⟨names, value, fits, read⟩ => ⟨value, fits, names, read⟩,
          fun ⟨value, fits, names, read⟩ => ⟨names, value, fits, read⟩⟩

/-- An object of different names is decoded to the record that its members describe, and to no
other. -/
theorem decode_object_ok_iff {draft : Draft} (shown : draft.Shows (.object members))
    (distinct : (members.map Prod.fst).Nodup) :
    decodeRecord rules (slots.map field) start medium draft = .ok record ↔
      Describes slots start members record := by
  cases shown with
  | object each order =>
    -- the draft has the members in another order, which says the same
    rename_i drafts written
    have names := ((order.map Prod.fst).nodup_iff).2 distinct
    have read : (∃ names, readMembers rules (slots.map field) medium drafts [] start =
        .ok (names, record)) ↔ _ :=
      hold.readMembers_ok_iff each names fun _ _ => List.not_mem_nil
    have perm : Describes slots start written record ↔ Describes slots start members record :=
      ⟨fun describes => describes.of_perm order, fun describes => describes.of_perm order.symm⟩
    rw [← perm, ← hold.fills_iff names, ← read, decodeRecord]
    cases readMembers rules (slots.map field) medium drafts [] start with
    | error fault => simp [bind, Except.bind]
    | ok answer =>
      obtain ⟨seen, filled⟩ := answer
      simp [rules]

/-- Reading elements puts them into the slots from some slot on. -/
theorem readPositions_ok_iff {last : List (Slot σ)} (known : ∀ slot ∈ last, slot ∈ slots)
    {drafts : List Draft} {elements : List Json} (shown : Draft.ShowsEach drafts elements) :
    readPositions rules medium (last.map field) drafts true start = .ok record ↔
      elements.length ≤ last.length ∧
        Fills slots ((last.map name).zip elements) start record := by
  induction last generalizing drafts elements start with
  | nil =>
    cases shown with
    | nil =>
      rw [List.map_nil, readPositions, List.map_nil, List.zip_nil_left, fills_nil_iff]
      simp
    | cons first rest =>
      rw [List.map_nil, readPositions]
      exact iff_of_false nofun fun fills => Nat.not_succ_le_zero _ fills.1
  | cons slot last ih =>
    have listed := known slot List.mem_cons_self
    have later := fun other held => known other (List.mem_cons_of_mem slot held)
    cases shown with
    | nil =>
      rw [List.map_cons, readPositions, List.zip_nil_right, fills_nil_iff]
      simp [rules]
    | cons first rest =>
      rename_i draft json drafts elements
      -- the first element is read into the first of the slots, and reading goes on from there
      have positions : readPositions rules medium ((slot :: last).map field) (draft :: drafts) true
          start = (slot.field.read medium draft start).bind
            (readPositions rules medium (last.map field) drafts true) := by
        rw [List.map_cons, readPositions]
        cases slot.field.read medium draft start <;> rfl
      rw [positions, read_field_bind_ok_iff first, List.map_cons, List.zip_cons_cons,
        List.length_cons, List.length_cons, Nat.succ_le_succ_iff, hold.fills_cons_iff listed]
      simp only [ih later rest]
      exact ⟨fun ⟨value, fits, few, fills⟩ => ⟨few, value, fits, fills⟩,
        fun ⟨few, value, fits, fills⟩ => ⟨value, fits, few, fills⟩⟩

/-- An array is decoded as the object of its elements with the names in order. -/
theorem decode_array_ok_iff {draft : Draft} {elements : List Json}
    (shown : draft.Shows (.array elements)) :
    decodeRecord rules (slots.map field) start medium draft = .ok record ↔
      elements.length ≤ slots.length ∧
        Describes slots start ((slots.map name).zip elements) record := by
  have distinct := (map_fst_zip_sublist (slots.map name) elements).nodup hold.distinct
  cases shown with
  | array each =>
    rw [decodeRecord, ← hold.fills_iff distinct]
    exact hold.readPositions_ok_iff (fun _ => id) each

end Hold

end Slot

end Resilience
