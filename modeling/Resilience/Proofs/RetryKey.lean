import Resilience.WorkUnit
import Mathlib.Data.List.Basic

/-!
# Units that share a key

A retry key joins action, id and fingerprint with colons. All fingerprints are equally long, so a
key tells the fingerprint of its unit. It does not tell where the action ends, though: actions and
ids may contain colons of their own. Two units with the same payload share a key, and with it the
count of their attempts, exactly if both cut the same text into an action and an id, possibly at
different colons.

## Main definitions

* `WorkUnit.CutsBefore` — two units that cut one text at different colons

## Main statements

* `length_fingerprint` — all fingerprints are equally long
* `WorkUnit.eq_of_retryKey_eq` — units without colons in their actions do not share keys
* `WorkUnit.retryKey_eq_iff` — which units share a key
* `WorkUnit.shared_across_colons` — two units of different actions and ids that do
-/

namespace Resilience

/-! ## Fingerprints -/

theorem length_digest (payload : ByteArray) : (Blake3.digest payload).length = 32 := by
  simp [Blake3.digest, List.length_flatMap, Blake3.wordBytes]

theorem length_hex (payload : ByteArray) : (Blake3.hex payload).toList.length = 64 := by
  simp [Blake3.hex, List.length_flatMap, length_digest]

theorem length_fingerprint (payload : ByteArray) :
    (fingerprint payload).toList.length = fingerprintLength := by
  rw [fingerprint, String.toList_ofList, List.length_take, length_hex]
  rfl

/-! ## Texts cut at a colon -/

/-- Two ways to cut one text at a colon: at the same one, or one of them at an earlier one. -/
theorem append_colon_eq_iff {first second rest others : List Char} :
    first ++ ':' :: rest = second ++ ':' :: others ↔
      first = second ∧ rest = others ∨
        (∃ part, second = first ++ ':' :: part ∧ rest = part ++ ':' :: others) ∨
        ∃ part, first = second ++ ':' :: part ∧ others = part ++ ':' :: rest := by
  rw [List.append_eq_append_iff]
  constructor
  · rintro (⟨_ | ⟨colon, part⟩, longer, cut⟩ | ⟨_ | ⟨colon, part⟩, longer, cut⟩)
    · exact .inl ⟨by simpa using longer.symm, (List.cons.inj cut).2⟩
    · obtain ⟨rfl, rfl⟩ := List.cons.inj cut
      exact .inr (.inl ⟨part, longer, rfl⟩)
    · exact .inl ⟨by simpa using longer, (List.cons.inj cut).2.symm⟩
    · obtain ⟨rfl, rfl⟩ := List.cons.inj cut
      exact .inr (.inr ⟨part, longer, rfl⟩)
  · rintro (⟨rfl, rfl⟩ | ⟨part, rfl, rfl⟩ | ⟨part, rfl, rfl⟩)
    · exact .inl ⟨[], by simp⟩
    · exact .inl ⟨':' :: part, rfl, rfl⟩
    · exact .inr ⟨':' :: part, rfl, rfl⟩

namespace WorkUnit

variable {first second : WorkUnit}

/-- Two units that cut one text into an action and an id, the first one at an earlier colon. -/
def CutsBefore (first second : WorkUnit) : Prop :=
  ∃ part, second.action = first.action ++ ":" ++ part ∧ first.id = part ++ ":" ++ second.id

theorem toList_joined (action rest : String) :
    (action ++ ":" ++ rest).toList = action.toList ++ ':' :: rest.toList := by
  simp

/-- Action and id are told by the text of both and the colon where it is cut. -/
theorem joined_eq_iff :
    first.action ++ ":" ++ first.id = second.action ++ ":" ++ second.id ↔
      first.action = second.action ∧ first.id = second.id ∨
        first.CutsBefore second ∨ second.CutsBefore first := by
  have part (other action rest id : String) :
      (∃ part, other.toList = action.toList ++ ':' :: part ∧
          rest.toList = part ++ ':' :: id.toList) ↔
        ∃ part, other = action ++ ":" ++ part ∧ rest = part ++ ":" ++ id := by
    constructor
    · rintro ⟨part, longer, cut⟩
      refine ⟨String.ofList part, ?_, ?_⟩ <;> rw [← String.toList_inj, toList_joined] <;> simpa
    · rintro ⟨part, rfl, rfl⟩
      exact ⟨part.toList, toList_joined .., toList_joined ..⟩
  rw [← String.toList_inj, toList_joined, toList_joined, append_colon_eq_iff, String.toList_inj,
    String.toList_inj, part, part]
  rfl

/-- A key tells the fingerprint, and the text of action and id. -/
theorem retryKey_eq_iff_joined :
    first.retryKey = second.retryKey ↔ first.fingerprint = second.fingerprint ∧
      first.action ++ ":" ++ first.id = second.action ++ ":" ++ second.id := by
  have lengths : first.fingerprint.toList.length = second.fingerprint.toList.length :=
    (length_fingerprint first.payload).trans (length_fingerprint second.payload).symm
  rw [retryKey, retryKey]
  constructor
  · intro same
    rw [← String.toList_inj, toList_joined (first.action ++ ":" ++ first.id),
      toList_joined (second.action ++ ":" ++ second.id)] at same
    obtain ⟨joined, ends⟩ := List.append_inj' same (congrArg Nat.succ lengths)
    exact ⟨String.toList_inj.1 (List.cons.inj ends).2, String.toList_inj.1 joined⟩
  · rintro ⟨same, joined⟩
    rw [joined, same]

/-- As long as actions have no colons, units that share a key agree in all that it is made of. -/
theorem eq_of_retryKey_eq (plain : ':' ∉ first.action.toList) (plain' : ':' ∉ second.action.toList)
    (same : first.retryKey = second.retryKey) :
    first.action = second.action ∧ first.id = second.id ∧
      first.fingerprint = second.fingerprint := by
  obtain ⟨fingerprint, joined⟩ := retryKey_eq_iff_joined.1 same
  rcases joined_eq_iff.1 joined with ⟨action, id⟩ | ⟨part, longer, -⟩ | ⟨part, longer, -⟩
  · exact ⟨action, id, fingerprint⟩
  · rw [longer, toList_joined] at plain'
    exact absurd (by simp) plain'
  · rw [longer, toList_joined] at plain
    exact absurd (by simp) plain

/-- Two units share a key exactly if their payloads have the same fingerprint and they cut one text
into an action and an id: at the same colon, so that they agree in both, or at different ones. -/
theorem retryKey_eq_iff (first second : WorkUnit) :
    first.retryKey = second.retryKey ↔
      first.fingerprint = second.fingerprint ∧
        (first.action = second.action ∧ first.id = second.id ∨
          first.CutsBefore second ∨ second.CutsBefore first) := by
  rw [retryKey_eq_iff_joined, joined_eq_iff]

/-- The unit `b:c` of the action `a` and the unit `c` of the action `a:b` share a key. -/
theorem shared_across_colons :
    let first : WorkUnit := ⟨"b:c", "a", none, .empty⟩
    let second : WorkUnit := ⟨"c", "a:b", none, .empty⟩
    first.retryKey = second.retryKey ∧ first.action ≠ second.action ∧ first.id ≠ second.id := by
  intro first second
  have joined : first.action ++ ":" ++ first.id = second.action ++ ":" ++ second.id := by decide
  refine ⟨?_, by decide, by decide⟩
  rw [retryKey, joined]
  rfl

end WorkUnit

end Resilience
