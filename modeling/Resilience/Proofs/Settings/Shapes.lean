import Resilience.Proofs.Json.Shown
import Resilience.Retry.Backoff
import Mathlib.Data.List.Nodup

/-!
# The values that settings hold

Settings hold words, numbers, flags, lists of names and strategies. For each of these shapes it is
said which documents give which value, and the decoder of the shape accepts exactly those, whether
they come from memory or from a text.

## Main definitions

* `Shape`, `Shape.Value`, `Shape.decoder` — the shapes, their values and their decoders
* `Shape.Fits` — the documents that give a value of a shape
* `Shape.write` — one of them

## Main statements

* `Shape.decoder_ok_iff` — a decoder accepts the documents that fit and gives their values
-/

namespace Resilience

/-- The shapes of the values that settings hold. -/
inductive Shape where
  | word32
  | word64
  | number
  | flag
  | names
  | strategy
  deriving DecidableEq, Repr

namespace Shape

/-- The values of a shape. -/
abbrev Value : Shape → Type
  | word32 => UInt32
  | word64 => UInt64
  | number => Binary64
  | flag => Bool
  | names => List String
  | strategy => Backoff

def decoder : (shape : Shape) → Decoder shape.Value
  | word32 => Decoder.word32
  | word64 => Decoder.word64
  | number => Decoder.number
  | flag => Decoder.boolean
  | names => Decoder.list Decoder.string
  | strategy => Backoff.decode

/-- The documents that give a value: words are integers in their range, and a number may be an
integer that is rounded. A strategy goes by its name in lower or in upper case, which stands alone
or is the only member of an object and has no content. -/
inductive Fits : (shape : Shape) → Json → shape.Value → Prop
  | word32 (word : UInt32) : Fits .word32 (.integer word.toNat) word
  | word64 (word : UInt64) : Fits .word64 (.integer word.toNat) word
  | integer (value : Int) : Fits .number (.integer value) (.ofInt value)
  | float (value : Binary64) : Fits .number (.float value) value
  | flag (value : Bool) : Fits .flag (.bool value) value
  | names (texts : List String) : Fits .names (.array (texts.map .string)) texts
  | bare {name : String} {strategy : Backoff}
      (named : name = strategy.name ∨ name = strategy.upperName) :
    Fits .strategy (.string name) strategy
  | wrapped {name : String} {strategy : Backoff}
      (named : name = strategy.name ∨ name = strategy.upperName) :
    Fits .strategy (.object [(name, .null)]) strategy

/-- A document of a value. -/
def write : (shape : Shape) → shape.Value → Json
  | word32, word => .natural word.toNat
  | word64, word => .natural word.toNat
  | number, value => .float value
  | flag, value => .bool value
  | names, texts => .ofTexts texts
  | strategy, chosen => chosen.json

theorem fits_write (shape : Shape) (value : shape.Value) : shape.Fits (shape.write value) value := by
  cases shape with
  | word32 => exact .word32 value
  | word64 => exact .word64 value
  | number => exact .float value
  | flag => exact .flag value
  | names => exact .names value
  | strategy => exact .bare (.inl rfl)

section

variable {json : Json}

theorem fits_word32_iff {word : UInt32} : Fits .word32 json word ↔ json = .integer word.toNat := by
  constructor
  · intro fits
    cases fits
    rfl
  · rintro rfl
    exact .word32 word

theorem fits_word64_iff {word : UInt64} : Fits .word64 json word ↔ json = .integer word.toNat := by
  constructor
  · intro fits
    cases fits
    rfl
  · rintro rfl
    exact .word64 word

theorem fits_number_iff {value : Binary64} : Fits .number json value ↔
    (∃ n, json = .integer n ∧ Binary64.ofInt n = value) ∨ json = .float value := by
  constructor
  · intro fits
    cases fits with
    | integer n => exact .inl ⟨n, rfl, rfl⟩
    | float => exact .inr rfl
  · rintro (⟨n, rfl, rfl⟩ | rfl)
    · exact .integer n
    · exact .float value

theorem fits_flag_iff {value : Bool} : Fits .flag json value ↔ json = .bool value := by
  constructor
  · intro fits
    cases fits
    rfl
  · rintro rfl
    exact .flag value

theorem fits_names_iff {texts : List String} :
    Fits .names json texts ↔ json = .array (texts.map .string) := by
  constructor
  · intro fits
    cases fits
    rfl
  · rintro rfl
    exact .names texts

theorem fits_strategy_iff {chosen : Backoff} :
    Fits .strategy json chosen ↔ ∃ name, (name = chosen.name ∨ name = chosen.upperName) ∧
      (json = .string name ∨ json = .object [(name, .null)]) := by
  constructor
  · intro fits
    cases fits with
    | bare named => exact ⟨_, named, .inl rfl⟩
    | wrapped named => exact ⟨_, named, .inr rfl⟩
  · rintro ⟨name, named, rfl | rfl⟩
    · exact .bare named
    · exact .wrapped named

end

end Shape

/-! ## Answers -/

namespace DecodeError

variable {α β : Type}

theorem map_ok_iff {f : α → β} {answer : Except DecodeError α} {b : β} :
    answer.map f = .ok b ↔ ∃ a, answer = .ok a ∧ f a = b := by
  cases answer <;> simp [Except.map]

end DecodeError

open DecodeError (map_ok_iff)

/-! ## Decoders -/

namespace Decoder

variable {medium : Medium} {draft : Draft}

theorem natural_ok_iff {greatest n : Nat} :
    natural greatest medium draft = .ok n ↔ draft = .integer n ∧ n ≤ greatest := by
  cases draft with
  | integer value =>
    rw [natural]
    split
    · rename_i range
      simp only [Except.ok.injEq, Draft.integer.injEq]
      omega
    · rename_i range
      simp only [reduceCtorEq, Draft.integer.injEq, false_iff, not_and]
      omega
  | _ => simp [natural, wrongKind]

theorem word32_ok_iff {word : UInt32} :
    word32 medium draft = .ok word ↔ draft = .integer word.toNat := by
  rw [word32, map_ok_iff]
  constructor
  · rintro ⟨n, read, rfl⟩
    obtain ⟨rfl, small⟩ := natural_ok_iff.1 read
    rw [UInt32.toNat_ofNat_of_lt' (Nat.lt_of_le_of_lt small (by decide))]
  · rintro rfl
    have small := word.toNat_lt
    exact ⟨word.toNat, natural_ok_iff.2 ⟨rfl, by omega⟩, UInt32.ofNat_toNat⟩

theorem word64_ok_iff {word : UInt64} :
    word64 medium draft = .ok word ↔ draft = .integer word.toNat := by
  rw [word64, map_ok_iff]
  constructor
  · rintro ⟨n, read, rfl⟩
    obtain ⟨rfl, small⟩ := natural_ok_iff.1 read
    rw [UInt64.toNat_ofNat_of_lt' (Nat.lt_of_le_of_lt small (by decide))]
  · rintro rfl
    have small := word.toNat_lt
    exact ⟨word.toNat, natural_ok_iff.2 ⟨rfl, by omega⟩, UInt64.ofNat_toNat⟩

theorem number_ok_iff (medium : Medium) {value : Binary64} :
    number medium draft = .ok value ↔
      (∃ n, draft = .integer n ∧ Binary64.ofInt n = value) ∨ draft = .float value := by
  cases draft <;> simp [number, wrongKind]

theorem boolean_ok_iff (medium : Medium) {value : Bool} :
    boolean medium draft = .ok value ↔ draft = .bool value := by
  cases draft <;> simp [boolean, wrongKind]

theorem string_ok_iff {text : String} :
    string medium draft = .ok text ↔ draft = .string text := by
  cases draft <;> simp [string, wrongKind]

theorem elements_string_ok_iff {drafts : List Draft} {texts : List String} :
    elements string medium drafts = .ok texts ↔ drafts = texts.map .string := by
  induction drafts generalizing texts with
  | nil => cases texts <;> simp [elements]
  | cons draft drafts ih =>
    rw [elements]
    constructor
    · intro read
      cases first : string medium draft with
      | error fault =>
        rw [first] at read
        cases read
      | ok text =>
        cases rest : elements string medium drafts with
        | error fault =>
          rw [first, rest] at read
          cases read
        | ok others =>
          rw [first, rest] at read
          cases read
          rw [string_ok_iff.1 first, ih.1 rest, List.map_cons]
    · intro written
      cases texts with
      | nil => cases written
      | cons text others =>
        rw [List.map_cons, List.cons.injEq] at written
        rw [string_ok_iff.2 written.1, ih.2 written.2]
        rfl

theorem list_string_ok_iff {texts : List String} :
    list string medium draft = .ok texts ↔ draft = .array (texts.map .string) true := by
  cases draft with
  | array drafts ended =>
    rw [list, Draft.array.injEq, ← @elements_string_ok_iff medium]
    cases elements string medium drafts with
    | error fault => exact iff_of_false nofun fun written => nomatch written.1
    | ok others =>
      cases ended with
      | true => exact (and_iff_left rfl).symm
      | false => exact iff_of_false nofun fun written => nomatch written.2
  | _ => simp [list, wrongKind]

end Decoder

namespace Backoff

theorem ofName?_eq_some_iff {name : String} {strategy : Backoff} :
    ofName? name = some strategy ↔ name = strategy.name ∨ name = strategy.upperName := by
  constructor
  · intro found
    have named := List.find?_some found
    rw [Bool.or_eq_true, decide_eq_true_eq, decide_eq_true_eq] at named
    exact named.imp Eq.symm Eq.symm
  · rintro (rfl | rfl)
    · cases strategy <;> decide
    · cases strategy <;> decide

/-- A name is that of one strategy. -/
theorem eq_of_named {name : String} {first second : Backoff}
    (here : name = first.name ∨ name = first.upperName)
    (there : name = second.name ∨ name = second.upperName) : first = second :=
  Option.some.inj ((ofName?_eq_some_iff.2 here).symm.trans (ofName?_eq_some_iff.2 there))

theorem plain_ok_iff {medium : Medium} {content : Draft} {strategy other : Backoff} :
    (Alternative.plain strategy).decode medium content = .ok other ↔
      content = .null ∧ strategy = other := by
  cases content <;> simp [Alternative.decode, Decoder.wrongKind]

/-- The only member of an object is the name of a strategy without content. -/
theorem decode_member_ok_iff {medium : Medium} {name : String} {content : Draft} {ended : Bool}
    {strategy : Backoff} :
    decode medium (.object [(some name, content)] ended) = .ok strategy ↔
      ofName? name = some strategy ∧ content = .null ∧ ended = true := by
  cases found : ofName? name with
  | none => cases medium <;> simp [decode, decodeChoice, found]
  | some other =>
    rw [Option.some.injEq]
    cases decoded : (Alternative.plain other).decode medium content with
    | error fault =>
      refine iff_of_false (fun accepted => ?_) fun only => ?_
      · cases medium <;> simp [decode, decodeChoice, found, decoded, bind, Except.bind] at accepted
      · rw [plain_ok_iff.2 ⟨only.2.1, rfl⟩] at decoded
        cases decoded
    | ok value =>
      obtain ⟨rfl, rfl⟩ := plain_ok_iff.1 decoded
      cases medium <;> cases ended <;>
        simp [decode, decodeChoice, found, decoded, bind, Except.bind, pure, Except.pure, throw,
          throwThe, MonadExceptOf.throw]

theorem decode_ok_iff {medium : Medium} {draft : Draft} {strategy : Backoff} :
    decode medium draft = .ok strategy ↔
      ∃ name, (name = strategy.name ∨ name = strategy.upperName) ∧
        (draft = .string name ∨ draft = .object [(some name, .null)] true) := by
  simp only [← ofName?_eq_some_iff]
  cases draft with
  | string name =>
    rw [decode, decodeChoice]
    cases found : ofName? name with
    | none => simp [found]
    | some other => simp [found]
  | object members ended =>
    match members with
    | [] => cases medium <;> simp [decode, decodeChoice]
    | (none, content) :: rest => cases medium <;> simp [decode, decodeChoice]
    | [(some name, content)] => simp [decode_member_ok_iff]
    | (some name, content) :: second :: rest =>
      refine iff_of_false (fun accepted => ?_) (by simp)
      cases medium with
      | memory => simp [decode, decodeChoice] at accepted
      | text =>
        cases found : ofName? name with
        | none => simp [decode, decodeChoice, found] at accepted
        | some other =>
          cases decoded : (Alternative.plain other).decode .text content <;>
            simp [decode, decodeChoice, found, decoded, bind, Except.bind, throw, throwThe,
              MonadExceptOf.throw] at accepted
  | _ => cases medium <;> simp [decode, decodeChoice]

end Backoff

/-- A document gives one value of a shape at most. -/
theorem Shape.Fits.unique {shape : Shape} {json : Json} {first second : shape.Value}
    (here : shape.Fits json first) (there : shape.Fits json second) : first = second := by
  cases shape with
  | word32 =>
    have same := (fits_word32_iff.1 here).symm.trans (fits_word32_iff.1 there)
    exact UInt32.toNat_inj.1 (Int.ofNat.inj (Json.integer.inj same))
  | word64 =>
    have same := (fits_word64_iff.1 here).symm.trans (fits_word64_iff.1 there)
    exact UInt64.toNat_inj.1 (Int.ofNat.inj (Json.integer.inj same))
  | number =>
    cases here <;> cases there <;> rfl
  | flag =>
    exact Json.bool.inj ((fits_flag_iff.1 here).symm.trans (fits_flag_iff.1 there))
  | names =>
    have same := (fits_names_iff.1 here).symm.trans (fits_names_iff.1 there)
    exact List.map_injective_iff.2 (fun _ _ => Json.string.inj) (Json.array.inj same)
  | strategy =>
    obtain ⟨name, named, rfl | rfl⟩ := fits_strategy_iff.1 here
    · cases there with
      | bare other => exact Backoff.eq_of_named named other
    · cases there with
      | wrapped other => exact Backoff.eq_of_named named other

/-! ## What is accepted -/

namespace Draft

/-- Drafts of texts are those of their strings. -/
theorem ShowsEach.eq_strings_iff {drafts : List Draft} {elements : List Json}
    {texts : List String} (each : ShowsEach drafts elements) :
    drafts = texts.map .string ↔ elements = texts.map .string := by
  induction texts generalizing drafts elements with
  | nil => cases each <;> simp
  | cons text texts ih =>
    cases each with
    | nil => simp
    | cons first rest =>
      rw [List.map_cons, List.map_cons, List.cons.injEq, List.cons.injEq, ih rest,
        first.eq_string_iff]

namespace Shows

variable {draft : Draft} {json : Json}

theorem eq_strings_iff (shown : draft.Shows json) {texts : List String} :
    draft = .array (texts.map .string) true ↔ json = .array (texts.map .string) := by
  cases shown with
  | array each => rw [Draft.array.injEq, and_iff_left rfl, Json.array.injEq, each.eq_strings_iff]
  | _ => exact iff_of_false nofun nofun

/-- The only member of an object has a name and no content. -/
theorem eq_wrapped_iff (shown : draft.Shows json) {name : String} :
    draft = .object [(some name, .null)] true ↔ json = .object [(name, .null)] := by
  cases shown with
  | object each order =>
    constructor
    · rintro ⟨⟩
      cases each with
      | cons _ first rest =>
        cases first
        cases rest
        rw [List.singleton_perm.1 order]
    · rintro ⟨⟩
      rw [List.perm_singleton.1 order] at each
      cases each with
      | cons _ first rest =>
        cases first
        cases rest
        rfl
  | _ => exact iff_of_false nofun nofun

end Shows

end Draft

/-- A decoder accepts the documents that fit its shape and gives their values, in memory as in a
text. -/
theorem Shape.decoder_ok_iff {shape : Shape} {value : shape.Value} {medium : Medium} {draft : Draft}
    {json : Json} (shown : draft.Shows json) :
    shape.decoder medium draft = .ok value ↔ shape.Fits json value := by
  cases shape with
  | word32 => exact Decoder.word32_ok_iff.trans (shown.eq_integer_iff.trans fits_word32_iff.symm)
  | word64 => exact Decoder.word64_ok_iff.trans (shown.eq_integer_iff.trans fits_word64_iff.symm)
  | number =>
    refine (Decoder.number_ok_iff medium).trans (Iff.trans ?_ fits_number_iff.symm)
    simp only [shown.eq_integer_iff, shown.eq_float_iff]
  | flag => exact (Decoder.boolean_ok_iff medium).trans (shown.eq_bool_iff.trans fits_flag_iff.symm)
  | names => exact Decoder.list_string_ok_iff.trans (shown.eq_strings_iff.trans fits_names_iff.symm)
  | strategy =>
    refine Backoff.decode_ok_iff.trans (Iff.trans ?_ fits_strategy_iff.symm)
    simp only [shown.eq_string_iff, shown.eq_wrapped_iff]

end Resilience
