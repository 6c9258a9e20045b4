import Resilience.Json.Number

/-!
# Documents as far as they can be read

A decoder meets the parts of a text in their order and stops at the first one it does not accept.
So that a fault further on does not hide an earlier one, a text is read into a `Draft`: a JSON
value that breaks off where the text stops being well-formed. What is well-formed but has no value,
such as a number out of range, is a fault only for a decoder that wants the value, so a draft keeps
its place. Values that are no text become drafts with their members in the order of their names.

## Main definitions

* `Draft` — a JSON value that may break off
* `Draft.Piece`, `Draft.joinPieces?` — strings as characters and code units
* `Draft.read` — the reading of a text
* `Draft.complete?` — the JSON value of a draft that does not break off
* `Json.draft` — a JSON value as a draft, members sorted by name
-/

namespace Resilience

/-- A JSON value that may break off. A container tells whether its end was reached. The name of a
member is absent if it is a well-formed string without a value. -/
inductive Draft where
  | null
  | bool (value : Bool)
  | integer (value : Int)
  | float (value : Binary64)
  | string (value : String)
  | array (elements : List Draft) (ended : Bool)
  | object (members : List (Option String × Draft)) (ended : Bool)
  /-- A well-formed number or string without a value: the number is out of range, or the string has
  one half of a pair of code units. -/
  | valueless
  /-- The text is not well-formed from here on. -/
  | broken
  deriving Inhabited, Repr

namespace Draft

/-- Whether a value was read to its end. -/
def isWhole : Draft → Bool
  | array _ ended | object _ ended => ended
  | broken => false
  | _ => true

/-! ## Reading -/

def isBlank (c : Char) : Bool := c = ' ' || c = '\n' || c = '\t' || c = '\r'

def skipBlanks (text : List Char) : List Char := text.dropWhile isBlank

def hexValue? (c : Char) : Option Nat :=
  if c.isDigit then some (c.toNat - '0'.toNat)
  else if 'a' ≤ c ∧ c ≤ 'f' then some (c.toNat - 'a'.toNat + 10)
  else if 'A' ≤ c ∧ c ≤ 'F' then some (c.toNat - 'A'.toNat + 10)
  else none

/-- The number written by four hexadecimal digits. -/
def readHex4? : List Char → Option (Nat × List Char)
  | a :: b :: c :: d :: rest => do
    let a ← hexValue? a
    let b ← hexValue? b
    let c ← hexValue? c
    let d ← hexValue? d
    some (((a * 16 + b) * 16 + c) * 16 + d, rest)
  | _ => none

/-- A piece of a string: a character, or a code unit of sixteen bits. -/
inductive Piece where
  | character (c : Char)
  | unit (value : Nat)

/-- Whether a code unit is the first half of a pair. -/
def isFirstHalf (unit : Nat) : Bool := 0xd800 ≤ unit && unit ≤ 0xdbff

/-- Whether a code unit is the second half of a pair. -/
def isSecondHalf (unit : Nat) : Bool := 0xdc00 ≤ unit && unit ≤ 0xdfff

/-- The character of a pair of code units. -/
def ofHalves (first second : Nat) : Char :=
  Char.ofNat (0x10000 + (first - 0xd800) * 0x400 + (second - 0xdc00))

/-- The characters of pieces, if the halves of pairs stand next to each other. Those already joined
are in reverse. -/
def joinPieces? (joined : List Char) : List Piece → Option (List Char)
  | [] => some joined.reverse
  | .character c :: rest => joinPieces? (c :: joined) rest
  | .unit value :: rest =>
    if isFirstHalf value then
      match rest with
      | .unit second :: rest =>
        if isSecondHalf second then joinPieces? (ofHalves value second :: joined) rest else none
      | _ => none
    else if isSecondHalf value then none
    else joinPieces? (Char.ofNat value :: joined) rest

/-- The character of a one-letter escape. -/
def simpleEscape? (c : Char) : Option Char :=
  match c with
  | '"' => some '"'
  | '\\' => some '\\'
  | '/' => some '/'
  | 'b' => some '\x08'
  | 'f' => some '\x0c'
  | 'n' => some '\n'
  | 'r' => some '\r'
  | 't' => some '\t'
  | _ => none

/-- The pieces of a string after its opening quote, in reverse. -/
def readPieces? : (fuel : Nat) → List Piece → List Char → Option (List Piece × List Char)
  | 0, _, _ => none
  | fuel + 1, read, text =>
    match text with
    | '"' :: rest => some (read, rest)
    -- an escape may be one half of a pair, so code units are joined when all are there
    | '\\' :: 'u' :: rest => do
      let (value, rest) ← readHex4? rest
      readPieces? fuel (.unit value :: read) rest
    | '\\' :: c :: rest => do
      let c ← simpleEscape? c
      readPieces? fuel (.character c :: read) rest
    | ['\\'] => none
    | c :: rest => if c.toNat < 0x20 then none else readPieces? fuel (.character c :: read) rest
    | [] => none

/-- A string after its opening quote, if it has a value. -/
def readString? (text : List Char) : Option (Option String × List Char) :=
  (readPieces? (text.length + 1) [] text).map fun (read, rest) =>
    ((joinPieces? [] read.reverse).map String.ofList, rest)

/-- A word that stands for a value. -/
def readWord (word : String) (value : Draft) (text : List Char) : Draft × List Char :=
  if word.toList.isPrefixOf text then (value, text.drop word.length) else (broken, text)

/-- The draft of a number. -/
def ofNumber : Option Json → Draft
  | some (.integer value) => integer value
  | some (.float value) => float value
  | _ => valueless

mutual

/-- A value at the start of a text that has no blanks there. The fuel bounds the number of tokens,
so the length of the text is enough. -/
def readValue : (fuel : Nat) → List Char → Draft × List Char
  | 0, text => (broken, text)
  | fuel + 1, text =>
    match text with
    | 'n' :: _ => readWord "null" null text
    | 't' :: _ => readWord "true" (bool true) text
    | 'f' :: _ => readWord "false" (bool false) text
    | '"' :: rest =>
      match readString? rest with
      | some (value, rest) => ((value.map string).getD valueless, rest)
      | none => (broken, rest)
    | '[' :: rest =>
      match skipBlanks rest with
      | ']' :: rest => (array [] true, rest)
      | rest => readElements fuel [] rest
    | '\x7b' :: rest =>
      match skipBlanks rest with
      | '\x7d' :: rest => (object [] true, rest)
      | rest => readMembers fuel [] rest
    | _ =>
      match Json.readNumber? text with
      | some (number, rest) => (ofNumber number, rest)
      | none => (broken, text)

/-- The elements of an array from the next one on; those already read are in reverse. -/
def readElements : (fuel : Nat) → List Draft → List Char → Draft × List Char
  | 0, read, text => (array read.reverse false, text)
  | fuel + 1, read, text =>
    let (value, rest) := readValue fuel text
    if !value.isWhole then (array (value :: read).reverse false, rest)
    else
      match skipBlanks rest with
      | ',' :: rest => readElements fuel (value :: read) (skipBlanks rest)
      | ']' :: rest => (array (value :: read).reverse true, rest)
      | rest => (array (value :: read).reverse false, rest)

/-- The members of an object from the next one on; those already read are in reverse. -/
def readMembers : (fuel : Nat) → List (Option String × Draft) → List Char → Draft × List Char
  | 0, read, text => (object read.reverse false, text)
  | fuel + 1, read, text =>
    match text with
    | '"' :: rest =>
      match readString? rest with
      | none => (object read.reverse false, rest)
      | some (name, rest) =>
        match skipBlanks rest with
        | ':' :: rest =>
          let (value, rest) := readValue fuel (skipBlanks rest)
          if !value.isWhole then (object ((name, value) :: read).reverse false, rest)
          else
            match skipBlanks rest with
            | ',' :: rest => readMembers fuel ((name, value) :: read) (skipBlanks rest)
            | '\x7d' :: rest => (object ((name, value) :: read).reverse true, rest)
            | rest => (object ((name, value) :: read).reverse false, rest)
        -- without a colon the member has a name, but its value breaks off
        | rest => (object ((name, broken) :: read).reverse false, rest)
    | _ => (object read.reverse false, text)

end

/-- The document of a text, and whether nothing but blanks follows it. -/
def read (text : String) : Draft × Bool :=
  let characters := text.toList
  let (value, rest) := readValue (2 * characters.length + 2) (skipBlanks characters)
  (value, (skipBlanks rest).isEmpty)

/-! ## Drafts and values -/

mutual

/-- The JSON value of a draft, if it nowhere breaks off and all its parts have values. -/
def complete? : Draft → Option Json
  | null => some .null
  | bool value => some (.bool value)
  | integer value => some (.integer value)
  | float value => some (.float value)
  | string value => some (.string value)
  | array elements ended =>
    if ended then (completeElements? elements).map .array else none
  | object members ended =>
    if ended then (completeMembers? members).map .object else none
  | valueless | broken => none

def completeElements? : List Draft → Option (List Json)
  | [] => some []
  | element :: rest => do
    let element ← element.complete?
    let rest ← completeElements? rest
    some (element :: rest)

def completeMembers? : List (Option String × Draft) → Option (List (String × Json))
  | [] => some []
  | (name, value) :: rest => do
    let name ← name
    let value ← value.complete?
    let rest ← completeMembers? rest
    some ((name, value) :: rest)

end

end Draft

namespace Json

mutual

/-- A value as a draft, with the members of every object in the order of their names. -/
def draft : Json → Draft
  | null => .null
  | bool value => .bool value
  | integer value => .integer value
  | float value => .float value
  | string value => .string value
  | array elements => .array (draftElements elements) true
  | object members =>
    let named := sortedMembers (draftMembers members)
    .object (named.map fun (name, draft) => (some name, draft)) true

def draftElements : List Json → List Draft
  | [] => []
  | element :: rest => element.draft :: draftElements rest

def draftMembers : List (String × Json) → List (String × Draft)
  | [] => []
  | (name, value) :: rest => (name, value.draft) :: draftMembers rest

end

/-- The JSON value of a text, if the whole text is one. -/
def parse? (text : String) : Option Json :=
  match Draft.read text with
  | (draft, true) => draft.complete?
  | (_, false) => none

end Json

end Resilience
