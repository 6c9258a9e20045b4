/-!
# Tables

A table maps keys to values. Its entries keep the order of their first insertion, and a key occurs
at most once in a table built by the operations below.

## Main definitions

* `Table` — entries in order of insertion
* `Table.find?`, `Table.insert`, `Table.erase`, `Table.keepWhere`

## Main statements

* `Table.find?_insert_self`, `Table.find?_insert_ne` — what an insertion changes
* `Table.find?_erase_self`, `Table.find?_erase_ne` — what an erasure changes
* `Table.find?_keepWhere_of_some`, `Table.find?_mapValues` — values that are kept or changed
* `Table.insert_insert` — the last insertion at a key counts
* `Table.keys_insert_of_mem`, `Table.keys_insert_of_notMem` — what an insertion does to the keys
* `Table.nodup_keys_insert`, `nodup_keys_erase`, `nodup_keys_keepWhere` — keys stay distinct
* `Table.find?_keepWhere_of_dropped` — values that are not kept are gone
-/

namespace Resilience

/-- Entries in order of insertion. -/
structure Table (κ ν : Type) where
  entries : List (κ × ν) := []

namespace Table

variable {κ ν : Type} [DecidableEq κ]

instance : Inhabited (Table κ ν) := ⟨{}⟩

/-- The table without entries. -/
def empty : Table κ ν := {}

/-- The value of a key in a list of entries. -/
def lookupIn (key : κ) : List (κ × ν) → Option ν
  | [] => none
  | (other, value) :: rest => if key = other then some value else lookupIn key rest

/-- The value of a key. -/
def find? (table : Table κ ν) (key : κ) : Option ν := lookupIn key table.entries

def contains (table : Table κ ν) (key : κ) : Bool := (table.find? key).isSome

/-- Sets the value of a key in a list of entries. -/
def insertEntry (key : κ) (value : ν) : List (κ × ν) → List (κ × ν)
  | [] => [(key, value)]
  | (other, present) :: rest =>
    if key = other then (key, value) :: rest else (other, present) :: insertEntry key value rest

/-- Sets the value of a key. -/
def insert (table : Table κ ν) (key : κ) (value : ν) : Table κ ν :=
  ⟨insertEntry key value table.entries⟩

/-- Removes a key. -/
def erase (table : Table κ ν) (key : κ) : Table κ ν :=
  ⟨table.entries.filter fun entry => entry.1 ≠ key⟩

/-- Keeps the entries with some property of their values. -/
def keepWhere (table : Table κ ν) (keep : ν → Bool) : Table κ ν :=
  ⟨table.entries.filter fun entry => keep entry.2⟩

/-- The number of entries. -/
def size (table : Table κ ν) : Nat := table.entries.length

theorem lookupIn_insertEntry_self (key : κ) (value : ν) (entries : List (κ × ν)) :
    lookupIn key (insertEntry key value entries) = some value := by
  induction entries with
  | nil => simp [insertEntry, lookupIn]
  | cons entry rest ih =>
    by_cases h : key = entry.1 <;> simp [insertEntry, lookupIn, h, ih]

theorem lookupIn_insertEntry_ne {key other : κ} (value : ν) (entries : List (κ × ν))
    (h : other ≠ key) :
    lookupIn other (insertEntry key value entries) = lookupIn other entries := by
  induction entries with
  | nil => simp [insertEntry, lookupIn, h]
  | cons entry rest ih =>
    by_cases hk : key = entry.1
    · simp [insertEntry, lookupIn, ← hk, h]
    · simp [insertEntry, lookupIn, hk, ih]

theorem mem_insertEntry {key : κ} {value : ν} {entry : κ × ν} {entries : List (κ × ν)}
    (member : entry ∈ insertEntry key value entries) : entry = (key, value) ∨ entry ∈ entries := by
  induction entries with
  | nil => exact .inl (List.mem_singleton.1 member)
  | cons first rest ih =>
    rw [insertEntry] at member
    split at member
    · exact (List.mem_cons.1 member).imp id (List.mem_cons_of_mem first)
    · rcases List.mem_cons.1 member with rfl | later
      · exact .inr List.mem_cons_self
      · exact (ih later).imp id (List.mem_cons_of_mem first)

theorem lookupIn_filter_self (key : κ) (entries : List (κ × ν)) :
    lookupIn key (entries.filter fun entry => entry.1 ≠ key) = none := by
  induction entries with
  | nil => rfl
  | cons entry rest ih =>
    by_cases h : entry.1 = key
    · simpa [h] using ih
    · simpa [h, lookupIn, Ne.symm h] using ih

theorem lookupIn_filter_ne {key other : κ} (entries : List (κ × ν)) (h : other ≠ key) :
    lookupIn other (entries.filter fun entry => entry.1 ≠ key) = lookupIn other entries := by
  induction entries with
  | nil => rfl
  | cons entry rest ih =>
    by_cases hk : entry.1 = key
    · simpa [hk, lookupIn, h] using ih
    · rw [List.filter_cons_of_pos (by simpa using hk)]
      simp only [lookupIn, ih]

@[simp] theorem find?_insert_self (table : Table κ ν) (key : κ) (value : ν) :
    (table.insert key value).find? key = some value :=
  lookupIn_insertEntry_self key value table.entries

theorem find?_insert_ne {key other : κ} (table : Table κ ν) (value : ν) (h : other ≠ key) :
    (table.insert key value).find? other = table.find? other :=
  lookupIn_insertEntry_ne value table.entries h

@[simp] theorem find?_erase_self (table : Table κ ν) (key : κ) :
    (table.erase key).find? key = none :=
  lookupIn_filter_self key table.entries

theorem find?_erase_ne {key other : κ} (table : Table κ ν) (h : other ≠ key) :
    (table.erase key).find? other = table.find? other :=
  lookupIn_filter_ne table.entries h

theorem find?_keepWhere_of_none {table : Table κ ν} {key : κ} (keep : ν → Bool)
    (unused : table.find? key = none) : (table.keepWhere keep).find? key = none := by
  obtain ⟨entries⟩ := table
  simp only [find?, keepWhere] at unused ⊢
  induction entries with
  | nil => rfl
  | cons entry rest ih =>
    rw [lookupIn] at unused
    split at unused
    · cases unused
    · rename_i other
      rw [List.filter_cons]
      split
      · rw [lookupIn, if_neg other, ih unused]
      · exact ih unused

theorem find?_keepWhere_of_some {table : Table κ ν} {key : κ} {value : ν} {keep : ν → Bool}
    (present : table.find? key = some value) (kept : keep value = true) :
    (table.keepWhere keep).find? key = some value := by
  obtain ⟨entries⟩ := table
  simp only [find?, keepWhere] at present ⊢
  induction entries with
  | nil => cases present
  | cons entry rest ih =>
    rw [lookupIn] at present
    split at present
    · rename_i same
      cases present
      rw [List.filter_cons, if_pos kept, lookupIn, if_pos same]
    · rename_i other
      rw [List.filter_cons]
      split
      · rw [lookupIn, if_neg other, ih present]
      · exact ih present

theorem find?_mapValues (table : Table κ ν) (change : ν → ν) (key : κ) :
    (Table.mk (table.entries.map fun entry => (entry.1, change entry.2))).find? key =
      (table.find? key).map change := by
  obtain ⟨entries⟩ := table
  simp only [find?]
  induction entries with
  | nil => rfl
  | cons entry rest ih =>
    rw [List.map_cons, lookupIn, lookupIn]
    split
    · rfl
    · exact ih

/-! ## Keys -/

/-- The keys in order of insertion. -/
def keys (table : Table κ ν) : List κ := table.entries.map Prod.fst

omit [DecidableEq κ] in
theorem length_keys (table : Table κ ν) : table.keys.length = table.size := List.length_map ..

theorem insertEntry_insertEntry (key : κ) (first second : ν) (entries : List (κ × ν)) :
    insertEntry key second (insertEntry key first entries) = insertEntry key second entries := by
  induction entries with
  | nil => simp [insertEntry]
  | cons entry rest ih =>
    by_cases h : key = entry.1 <;> simp [insertEntry, h, ih]

/-- The last insertion at a key counts. -/
@[simp] theorem insert_insert (table : Table κ ν) (key : κ) (first second : ν) :
    (table.insert key first).insert key second = table.insert key second :=
  congrArg mk (insertEntry_insertEntry key first second table.entries)

theorem keys_insert_of_mem {table : Table κ ν} {key : κ} (value : ν) (known : key ∈ table.keys) :
    (table.insert key value).keys = table.keys := by
  obtain ⟨entries⟩ := table
  simp only [keys, insert] at known ⊢
  induction entries with
  | nil => cases known
  | cons entry rest ih =>
    by_cases h : key = entry.1
    · simp [insertEntry, h]
    · have known : key ∈ rest.map Prod.fst := (List.mem_cons.1 known).resolve_left h
      simp [insertEntry, h, ih known]

theorem keys_insert_of_notMem {table : Table κ ν} {key : κ} (value : ν)
    (new : key ∉ table.keys) : (table.insert key value).keys = table.keys ++ [key] := by
  obtain ⟨entries⟩ := table
  simp only [keys, insert] at new ⊢
  induction entries with
  | nil => rfl
  | cons entry rest ih =>
    obtain ⟨h, new⟩ := not_or.1 (mt List.mem_cons.2 new)
    simp [insertEntry, h, ih new]

theorem nodup_keys_insert {table : Table κ ν} (distinct : table.keys.Nodup) (key : κ) (value : ν) :
    (table.insert key value).keys.Nodup := by
  by_cases known : key ∈ table.keys
  · rw [keys_insert_of_mem value known]
    exact distinct
  · rw [keys_insert_of_notMem value known]
    have single : [key].Nodup := List.nodup_cons.2 ⟨List.not_mem_nil, List.nodup_nil⟩
    refine List.nodup_append.2 ⟨distinct, single, ?_⟩
    rintro other member _ same rfl
    exact known (List.mem_singleton.1 same ▸ member)

theorem nodup_keys_erase {table : Table κ ν} (distinct : table.keys.Nodup) (key : κ) :
    (table.erase key).keys.Nodup :=
  distinct.sublist (List.filter_sublist.map _)

omit [DecidableEq κ] in
theorem nodup_keys_keepWhere {table : Table κ ν} (distinct : table.keys.Nodup) (keep : ν → Bool) :
    (table.keepWhere keep).keys.Nodup :=
  distinct.sublist (List.filter_sublist.map _)

theorem find?_eq_none_of_notMem {table : Table κ ν} {key : κ} (unknown : key ∉ table.keys) :
    table.find? key = none := by
  obtain ⟨entries⟩ := table
  simp only [keys, find?] at unknown ⊢
  induction entries with
  | nil => rfl
  | cons entry rest ih =>
    obtain ⟨other, unknown⟩ := not_or.1 (mt List.mem_cons.2 unknown)
    rw [lookupIn, if_neg other, ih unknown]

/-- A value that is not kept is gone, since its key occurs once only. -/
theorem find?_keepWhere_of_dropped {table : Table κ ν} {key : κ} {value : ν} {keep : ν → Bool}
    (distinct : table.keys.Nodup) (present : table.find? key = some value)
    (dropped : keep value = false) : (table.keepWhere keep).find? key = none := by
  obtain ⟨entries⟩ := table
  simp only [keys, find?, keepWhere] at distinct present ⊢
  induction entries with
  | nil => rfl
  | cons entry rest ih =>
    obtain ⟨once, distinct⟩ := List.nodup_cons.1 distinct
    rw [lookupIn] at present
    split at present
    · rename_i same
      cases present
      rw [List.filter_cons_of_neg (by simp [dropped])]
      have unknown : key ∉ (Table.mk rest : Table κ ν).keys := same ▸ once
      exact find?_keepWhere_of_none keep (find?_eq_none_of_notMem unknown)
    · rename_i other
      rw [List.filter_cons]
      split
      · rw [lookupIn, if_neg other, ih distinct present]
      · exact ih distinct present

end Table

end Resilience
