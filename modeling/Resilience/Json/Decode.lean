import Resilience.Json.Draft

/-!
# Decoding JSON documents

A decoder turns a draft into a value or names the class of the first fault it meets. Records are
read from an object of named fields or from an array of the fields in their declared order;
alternatives from a bare name or from an object with the name as its only member.

## Main definitions

* `DecodeError` — the classes of faults
* `Medium` — whether a document is a text or a value already in memory
* `Decoder` — a reading of drafts as values of a type
* `Field`, `decodeRecord` — records field by field
* `Alternative`, `decodeChoice` — alternatives by name
* `Decoder.decodeText`, `Decoder.decodeJson` — whole documents
-/

namespace Resilience

/-- The classes of faults a decoder distinguishes. -/
inductive DecodeError where
  | unknownField
  | unknownVariant
  | invalidType
  | invalidValue
  | invalidLength
  | missingField
  | duplicateField
  /-- The text is not well-formed, a number or string that is wanted has no value, or a string does
  not have its required form. -/
  | malformed
  deriving DecidableEq, Repr, Inhabited

/-- The name of a class of faults. -/
def DecodeError.message : DecodeError → String
  | unknownField => "unknown field"
  | unknownVariant => "unknown variant"
  | invalidType => "invalid type"
  | invalidValue => "invalid value"
  | invalidLength => "invalid length"
  | missingField => "missing field"
  | duplicateField => "duplicate field"
  | malformed => "syntax"

/-- Where a document comes from. A value in memory is looked at as a whole, while a text is met
piece by piece. -/
inductive Medium where
  | memory
  | text
  deriving DecidableEq, Repr

/-- A reading of drafts as values of a type. -/
abbrev Decoder (α : Type) := Medium → Draft → Except DecodeError α

namespace Decoder

/-- Accepts null only for an optional value that is absent. -/
def optional {α : Type} (decoder : Decoder α) : Decoder (Option α) := fun medium draft =>
  match draft with
  | .null => .ok none
  | draft => (decoder medium draft).map some

/-- The fault of a draft that is not of the kind looked for. -/
def wrongKind {α : Type} (draft : Draft) : Except DecodeError α :=
  match draft with
  | .valueless | .broken => .error .malformed
  | _ => .error .invalidType

/-- An integer between zero and a greatest value. -/
def natural (greatest : Nat) : Decoder Nat := fun _ draft =>
  match draft with
  | .integer value =>
    if 0 ≤ value ∧ value ≤ greatest then .ok value.toNat else .error .invalidValue
  | draft => wrongKind draft

def word32 : Decoder UInt32 := fun medium draft =>
  (natural (2 ^ 32 - 1) medium draft).map Nat.toUInt32

def word64 : Decoder UInt64 := fun medium draft =>
  (natural (2 ^ 64 - 1) medium draft).map Nat.toUInt64

def byte : Decoder UInt8 := fun medium draft => (natural 255 medium draft).map Nat.toUInt8

/-- Any number, rounded to binary64. -/
def number : Decoder Binary64 := fun _ draft =>
  match draft with
  | .integer value => .ok (Binary64.ofInt value)
  | .float value => .ok value
  | draft => wrongKind draft

def boolean : Decoder Bool := fun _ draft =>
  match draft with
  | .bool value => .ok value
  | draft => wrongKind draft

def string : Decoder String := fun _ draft =>
  match draft with
  | .string value => .ok value
  | draft => wrongKind draft

/-- Elements in their order; the first fault decides. -/
def elements {α : Type} (decoder : Decoder α) (medium : Medium) :
    List Draft → Except DecodeError (List α)
  | [] => .ok []
  | draft :: rest => do
    let value ← decoder medium draft
    let values ← elements decoder medium rest
    pure (value :: values)

/-- An array of values. -/
def list {α : Type} (decoder : Decoder α) : Decoder (List α) := fun medium draft =>
  match draft with
  | .array drafts ended => do
    let values ← elements decoder medium drafts
    if ended then pure values else throw .malformed
  | draft => wrongKind draft

end Decoder

/-! ## Records -/

/-- A field of a record under construction. -/
structure Field (σ : Type) where
  name : String
  /-- Puts the field's value into the record. -/
  read : Medium → Draft → σ → Except DecodeError σ
  /-- Whether an object may leave the field out. -/
  optional : Bool := false

/-- A field that is decoded and then set. -/
def Field.of {σ α : Type} (name : String) (decoder : Decoder α) (set : σ → α → σ)
    (optional : Bool := false) : Field σ where
  name
  read medium draft record := (decoder medium draft).map (set record)
  optional

/-- How a record treats what its declared fields do not cover. -/
structure RecordRules where
  /-- Whether a field without a value keeps a default. -/
  hasDefaults : Bool
  /-- Whether members with other names are faults. -/
  closed : Bool

/-- Reads the members of an object in their order. -/
def readMembers {σ : Type} (rules : RecordRules) (fields : List (Field σ)) (medium : Medium) :
    List (Option String × Draft) → (seen : List String) → σ → Except DecodeError (List String × σ)
  | [], seen, record => .ok (seen, record)
  | (none, _) :: _, _, _ => .error .malformed
  | (some name, draft) :: rest, seen, record =>
    match fields.find? (·.name = name) with
    | none =>
      if rules.closed then .error .unknownField
      else if draft.isWhole then readMembers rules fields medium rest seen record
      else .error .malformed
    | some field =>
      if name ∈ seen then .error .duplicateField
      else
        match field.read medium draft record with
        | .error fault => .error fault
        | .ok record => readMembers rules fields medium rest (name :: seen) record

/-- Reads the elements of an array as the declared fields in their order. -/
def readPositions {σ : Type} (rules : RecordRules) (medium : Medium) :
    List (Field σ) → List Draft → (ended : Bool) → σ → Except DecodeError σ
  | [], [], true, record => .ok record
  | [], [], false, _ => .error .malformed
  | [], _ :: _, _, _ => .error (if medium = .text then .malformed else .invalidLength)
  | _ :: _, [], false, _ => .error .malformed
  | _ :: _, [], true, record => if rules.hasDefaults then .ok record else .error .invalidLength
  | field :: fields, draft :: rest, ended, record =>
    match field.read medium draft record with
    | .error fault => .error fault
    | .ok record => readPositions rules medium fields rest ended record

/-- A record from an object of named fields or an array of fields in order. -/
def decodeRecord {σ : Type} (rules : RecordRules) (fields : List (Field σ)) (start : σ) :
    Decoder σ := fun medium draft =>
  match draft with
  | .object members ended => do
    let (seen, record) ← readMembers rules fields medium members [] start
    if !ended then throw .malformed
    if rules.hasDefaults || fields.all (fun field => field.optional || field.name ∈ seen) then
      pure record
    else throw .missingField
  | .array drafts ended => readPositions rules medium fields drafts ended start
  | draft => Decoder.wrongKind draft

/-! ## Alternatives -/

/-- What a name among alternatives stands for. -/
inductive Alternative (α : Type) where
  /-- A value by itself. -/
  | plain (value : α)
  /-- A value that needs content. -/
  | carrying (content : Decoder α)

/-- The content of a named alternative in an object. -/
def Alternative.decode {α : Type} (alternative : Alternative α) : Decoder α := fun medium draft =>
  match alternative, draft with
  | plain value, .null => .ok value
  | plain _, draft => Decoder.wrongKind draft
  | carrying content, draft => content medium draft

/-- An alternative from a bare name or from an object with the name as its only member. -/
def decodeChoice {α : Type} (alternatives : String → Option (Alternative α)) : Decoder α :=
  fun medium draft =>
  match draft with
  | .string name =>
    match alternatives name with
    | none => .error .unknownVariant
    | some (.plain value) => .ok value
    | some (.carrying _) => .error .invalidType
  | .object members ended =>
    match medium, members with
    | .memory, [(some name, content)] | .text, (some name, content) :: _ =>
      match alternatives name with
      | none => .error .unknownVariant
      | some alternative => do
        let value ← alternative.decode medium content
        if members.length = 1 && ended then pure value else throw .malformed
    | .memory, _ => .error .invalidValue
    | .text, _ => .error .malformed
  | .valueless | .broken => .error .malformed
  | _ => .error (if medium = .text then .malformed else .invalidType)

/-! ## Whole documents -/

namespace Decoder

/-- Decodes a text; nothing but blanks may follow the document. -/
def decodeText {α : Type} (decoder : Decoder α) (text : String) : Except DecodeError α := do
  let (draft, ended) := Draft.read text
  let value ← decoder .text draft
  if ended then pure value else throw .malformed

/-- Decodes a value in memory. -/
def decodeJson {α : Type} (decoder : Decoder α) (json : Json) : Except DecodeError α :=
  decoder .memory json.draft

end Decoder

end Resilience
