import Resilience.Proofs.Settings.Slots
import Resilience.Json.Access
import Resilience.Settings.Breaker
import Resilience.Settings.Retry

/-!
# Documents of settings

The settings of a retry policy have eight slots and those of a breaker have ten. That is all their
decoders know: they accept an object if each member has the name of a slot and a value of its shape,
and find the default settings with the members that are there put in. An array stands for the
object of its elements with the names in order. In which order the members come, and whether the
document is a text or a value in memory, makes no difference.

## Main definitions

* `Slot.Means` — the record that a document stands for
* `Slot.Grammar` — a decoder that accepts what stands for a record, nothing else
* `RetrySettings.slots`, `BreakerSettings.slots` — the slots of either settings

## Main statements

* `Slot.Hold.grammar` — the decoder of a record of slots has that grammar
* `grammar_settings` — so have the decoders of settings
-/

namespace Resilience

/-! ## Records of slots -/

/-- A text that is a document is decoded from a draft that shows it. -/
theorem Decoder.exists_draft {α : Type} (decoder : Decoder α) {text : String} {json : Json}
    (parsed : Json.parse? text = some json) :
    ∃ draft : Draft, draft.Shows json ∧ decoder.decodeText text = decoder .text draft := by
  rw [Json.parse?] at parsed
  split at parsed
  · rename_i draft ended
    refine ⟨draft, Draft.shows_of_complete? parsed, ?_⟩
    rw [decodeText, ended]
    cases accepted : decoder .text draft <;> simp [accepted]
  · cases parsed

theorem Shape.namesOnce_write (shape : Shape) (value : shape.Value) :
    (shape.write value).NamesOnce := by
  cases shape with
  | word32 | word64 | number | flag | strategy => trivial
  | names =>
    change (Json.ofTexts value).NamesOnce
    rw [Json.ofTexts, Json.NamesOnce]
    induction value with
    | nil => trivial
    | cons text texts ih => exact ⟨trivial, ih⟩

namespace Slot

variable {σ : Type} {slots : List (Slot σ)} {start record : σ}

/-- The record that a document stands for, given how the record is at the start. -/
inductive Means (slots : List (Slot σ)) (start : σ) : Json → σ → Prop
  /-- Members go to the slots of their names. -/
  | object {members : List (String × Json)} {record : σ}
      (describes : Describes slots start members record) :
    Means slots start (.object members) record
  /-- Elements go to the slots in their order, and the last slots may be left out. -/
  | array {elements : List Json} {record : σ} (short : elements.length ≤ slots.length)
      (describes : Describes slots start ((slots.map name).zip elements) record) :
    Means slots start (.array elements) record

theorem means_object_iff {members : List (String × Json)} :
    Means slots start (.object members) record ↔ Describes slots start members record := by
  refine ⟨fun means => ?_, .object⟩
  cases means with
  | object describes => exact describes

theorem means_array_iff {elements : List Json} :
    Means slots start (.array elements) record ↔ elements.length ≤ slots.length ∧
      Describes slots start ((slots.map name).zip elements) record := by
  refine ⟨fun means => ?_, fun means => .array means.1 means.2⟩
  cases means with
  | array short describes => exact ⟨short, describes⟩

/-- A decoder that accepts the documents that stand for a record, and no others. -/
structure Grammar (decode : Decoder σ) (slots : List (Slot σ)) (start : σ) (json : σ → Json) :
    Prop where
  /-- A value in memory gives the record it stands for. -/
  memory : ∀ document : Json, document.NamesOnce → ∀ record,
    decode.decodeJson document = .ok record ↔ Means slots start document record
  /-- So does a text, if its members have different names. -/
  text : ∀ text document, Json.parse? text = some document →
    (document.toMembers.map Prod.fst).Nodup → ∀ record,
      decode.decodeText text = .ok record ↔ Means slots start document record
  /-- An object is accepted if each member has the name of a slot and fits it. -/
  accepts : ∀ members, (Json.object members).NamesOnce →
    ((∃ record, decode.decodeJson (.object members) = .ok record) ↔ Admits slots members)
  /-- The order of members makes no difference. -/
  unordered : ∀ members others, members.Perm others → (Json.object members).NamesOnce →
    (Json.object others).NamesOnce → ∀ record,
      decode.decodeJson (.object members) = .ok record ↔
        decode.decodeJson (.object others) = .ok record
  /-- The document of all fields gives the record back. -/
  object : ∀ record, decode.decodeJson (json record) = .ok record
  /-- So does the array of all fields. -/
  array : ∀ record,
    decode.decodeJson (.array ((json record).toMembers.map Prod.snd)) = .ok record

theorem namesOnce_members (slots : List (Slot σ)) (record : σ) :
    Json.MembersNamesOnce (slots.map (member record)) ∧
      Json.EachNamesOnce ((slots.map (member record)).map Prod.snd) := by
  induction slots with
  | nil => exact ⟨trivial, trivial⟩
  | cons slot slots ih =>
    have first := slot.shape.namesOnce_write (slot.get record)
    exact ⟨⟨first, ih.1⟩, first, ih.2⟩

theorem map_fst_members (slots : List (Slot σ)) (record : σ) :
    (slots.map (member record)).map Prod.fst = slots.map name := by
  rw [List.map_map]
  rfl

namespace Hold

variable (hold : Hold slots)
include hold

/-- A record of slots is decoded to what the document stands for. -/
theorem decode_ok_iff {medium : Medium} {draft : Draft} {document : Json}
    (shown : draft.Shows document) (distinct : (document.toMembers.map Prod.fst).Nodup) :
    decodeRecord rules (slots.map field) start medium draft = .ok record ↔
      Means slots start document record := by
  cases document with
  | object members =>
    rw [hold.decode_object_ok_iff shown distinct, means_object_iff]
  | array elements =>
    rw [hold.decode_array_ok_iff shown, means_array_iff]
  | null | bool _ | integer _ | float _ | string _ =>
    -- anything else is of the wrong kind for a record
    cases shown
    exact iff_of_false nofun nofun

theorem decodeJson_ok_iff {document : Json} (once : document.NamesOnce) :
    (decodeRecord rules (slots.map field) start).decodeJson document = .ok record ↔
      Means slots start document record := by
  refine hold.decode_ok_iff (Json.shows_draft once) ?_
  cases document with
  | object members =>
    rw [Json.NamesOnce] at once
    exact once.1
  | null | bool _ | integer _ | float _ | string _ | array _ => exact .nil

/-- The decoder of a record of slots accepts what stands for a record. -/
theorem grammar (start : σ) :
    Grammar (decodeRecord rules (slots.map field) start) slots start fun record =>
      .object (slots.map (member record)) where
  memory document once record := hold.decodeJson_ok_iff once
  text text document parsed distinct record := by
    -- a text stands for the document that its draft shows
    obtain ⟨draft, shown, same⟩ :=
      Decoder.exists_draft (decodeRecord rules (slots.map field) start) parsed
    rw [same]
    exact hold.decode_ok_iff shown distinct
  accepts members once := by
    simp only [hold.decodeJson_ok_iff once, means_object_iff]
    constructor
    · rintro ⟨record, describes⟩
      exact describes.admits
    · intro admits
      obtain ⟨record, fills⟩ := admits.exists_fills start
      rw [Json.NamesOnce] at once
      exact ⟨record, hold.describes_of_fills fills once.1⟩
  unordered members others order once again record := by
    rw [hold.decodeJson_ok_iff once, hold.decodeJson_ok_iff again, means_object_iff,
      means_object_iff]
    exact ⟨fun describes => describes.of_perm order, fun describes => describes.of_perm order.symm⟩
  object record := by
    have once : (Json.object (slots.map (member record))).NamesOnce := by
      rw [Json.NamesOnce, map_fst_members]
      exact ⟨hold.distinct, (namesOnce_members slots record).1⟩
    exact (hold.decodeJson_ok_iff once).2 (.object (describes_members start record))
  array record := by
    have once : (Json.array ((slots.map (member record)).map Prod.snd)).NamesOnce := by
      rw [Json.NamesOnce]
      exact (namesOnce_members slots record).2
    have named : (slots.map name).zip ((slots.map (member record)).map Prod.snd) =
        slots.map (member record) := by
      rw [List.map_map, List.zip_map']
      rfl
    refine (hold.decodeJson_ok_iff once).2 (.array (by simp) ?_)
    rw [named]
    exact describes_members start record

end Hold

end Slot

/-! ## Retry policies -/

namespace RetrySettings

/-- The slots of the settings of a retry policy. -/
def slots : List (Slot RetrySettings) :=
  [⟨"maxAttempts", .word32, (·.maxAttempts), fun settings maxAttempts =>
     { settings with maxAttempts }⟩,
   ⟨"baseDelay", .word64, (·.baseDelay), fun settings baseDelay => { settings with baseDelay }⟩,
   ⟨"maxDelay", .word64, (·.maxDelay), fun settings maxDelay => { settings with maxDelay }⟩,
   ⟨"backoffMultiplier", .number, (·.multiplier), fun settings multiplier =>
     { settings with multiplier }⟩,
   ⟨"backoffStrategy", .strategy, (·.strategy), fun settings strategy =>
     { settings with strategy }⟩,
   ⟨"jitterFactor", .number, (·.jitter), fun settings jitter => { settings with jitter }⟩,
   ⟨"retryOn", .names, (·.retried), fun settings retried => { settings with retried }⟩,
   ⟨"ignoreExceptions", .names, (·.ignored), fun settings ignored => { settings with ignored }⟩]

theorem decode_eq : decode = decodeRecord Slot.rules (slots.map Slot.field) default := rfl

theorem json_eq : json = fun settings => .object (slots.map (Slot.member settings)) := rfl

theorem hold_slots : Slot.Hold slots where
  distinct := by decide
  get_set := by simp [slots]
  get_set_other := by simp [slots]
  ext first second same := by
    simp only [slots, List.forall_mem_cons] at same
    obtain ⟨⟩ := first
    obtain ⟨⟩ := second
    simp_all

end RetrySettings

/-! ## Breakers -/

namespace BreakerSettings

/-- The slots of the settings of a breaker. -/
def slots : List (Slot BreakerSettings) :=
  [⟨"failureRateThreshold", .number, (·.rateThreshold), fun settings rateThreshold =>
     { settings with rateThreshold }⟩,
   ⟨"failureCountThreshold", .word32, (·.countThreshold), fun settings countThreshold =>
     { settings with countThreshold }⟩,
   ⟨"minimumNumberOfCalls", .word32, (·.minimumCalls), fun settings minimumCalls =>
     { settings with minimumCalls }⟩,
   ⟨"slidingWindowSize", .word64, (·.windowSize), fun settings windowSize =>
     { settings with windowSize }⟩,
   ⟨"waitDurationInOpenState", .word64, (·.openWait), fun settings openWait =>
     { settings with openWait }⟩,
   ⟨"permittedNumberOfCallsInHalfOpenState", .word32, (·.permittedProbes),
     fun settings permittedProbes => { settings with permittedProbes }⟩,
   ⟨"timeoutDuration", .word64, (·.callTimeout), fun settings callTimeout =>
     { settings with callTimeout }⟩,
   ⟨"automaticTransitionFromOpenToHalfOpen", .flag, (·.automaticProbing),
     fun settings automaticProbing => { settings with automaticProbing }⟩,
   ⟨"ignoreExceptions", .names, (·.ignored), fun settings ignored => { settings with ignored }⟩,
   ⟨"recordFailurePredicate", .names, (·.recorded), fun settings recorded =>
     { settings with recorded }⟩]

theorem decode_eq : decode = decodeRecord Slot.rules (slots.map Slot.field) default := rfl

theorem json_eq : json = fun settings => .object (slots.map (Slot.member settings)) := rfl

theorem hold_slots : Slot.Hold slots where
  distinct := by decide
  get_set := by simp [slots]
  get_set_other := by simp [slots]
  ext first second same := by
    simp only [slots, List.forall_mem_cons] at same
    obtain ⟨⟩ := first
    obtain ⟨⟩ := second
    simp_all

end BreakerSettings

/-- Both settings are decoded as records of their slots, which start from the default settings. -/
theorem grammar_settings :
    Slot.Grammar RetrySettings.decode RetrySettings.slots RetrySettings.default
        RetrySettings.json ∧
      Slot.Grammar BreakerSettings.decode BreakerSettings.slots BreakerSettings.default
        BreakerSettings.json := by
  constructor
  · rw [RetrySettings.decode_eq, RetrySettings.json_eq]
    exact RetrySettings.hold_slots.grammar .default
  · rw [BreakerSettings.decode_eq, BreakerSettings.json_eq]
    exact BreakerSettings.hold_slots.grammar .default

/-- A number of attempts and a strategy in upper case replace two defaults, and an option of an
unknown name is refused. -/
theorem grammar_settings_of_options :
    RetrySettings.decode.decodeJson
        (.object [("maxAttempts", .integer 5), ("backoffStrategy", .object [("FIXED", .null)])]) =
        .ok { RetrySettings.default with maxAttempts := 5, strategy := .fixed } ∧
      ¬∃ settings, BreakerSettings.decode.decodeJson (.object [("failureRate", .float 1)]) =
        .ok settings := by
  constructor
  · refine (grammar_settings.1.memory _ ?_ _).2 (.object ⟨?_, ?_⟩)
    · simp [Json.NamesOnce, Json.MembersNamesOnce]
    · rw [List.forall_mem_cons, List.forall_mem_singleton]
      exact ⟨⟨RetrySettings.slots[0], List.getElem_mem _, rfl, .word32 5⟩,
        RetrySettings.slots[4], List.getElem_mem _, rfl, .wrapped (.inr rfl)⟩
    · simp [RetrySettings.slots]
  · rw [grammar_settings.2.accepts _ (by simp [Json.NamesOnce, Json.MembersNamesOnce])]
    intro admits
    obtain ⟨slot, listed, named, -⟩ := admits _ List.mem_cons_self
    have known : "failureRate" ∈ BreakerSettings.slots.map Slot.name :=
      List.mem_map.2 ⟨slot, listed, named⟩
    exact absurd known (by decide)

end Resilience
