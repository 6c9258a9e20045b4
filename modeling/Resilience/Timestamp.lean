import Resilience.Binary64

/-!
# Timestamps of the calendar

A timestamp is a point in civil time in UTC: the seconds since the beginning of 1970 and the
nanoseconds beyond them. In the last second of a minute the nanoseconds may run on for another
second, which is how a leap second is kept.

Timestamps are written as in RFC 3339, with as many groups of three decimal places as needed. The
reader also accepts blanks between the parts, numbers without leading zeros, a small letter or a
blank between date and time, any number of decimal places and any offset from UTC.

## Main definitions

* `Timestamp` — seconds and nanoseconds
* `Timestamp.daysOfDate`, `Timestamp.dateOfDays` — the proleptic Gregorian calendar
* `Timestamp.text` — the written form
* `Timestamp.read?` — the timestamp of a text
-/

namespace Resilience

/-- A point in civil time, in UTC. -/
structure Timestamp where
  /-- Seconds since the beginning of 1970. -/
  seconds : Int
  /-- Nanoseconds beyond the second; a second billion belongs to a leap second. -/
  nanos : Nat
  deriving DecidableEq, Repr, Inhabited

namespace Timestamp

/-- A day of the calendar. -/
structure Date where
  year : Int
  month : Nat
  day : Nat
  deriving DecidableEq, Repr

def isLeapYear (year : Int) : Bool := year % 4 = 0 && (year % 100 ≠ 0 || year % 400 = 0)

def daysOfMonth (year : Int) (month : Nat) : Nat :=
  match month with
  | 2 => if isLeapYear year then 29 else 28
  | 4 | 6 | 9 | 11 => 30
  | _ => 31

/-- Days since the beginning of 1970. Years are counted from March, so that the leap day is the
last day of its year. -/
def daysOfDate (date : Date) : Int :=
  let year := if date.month ≤ 2 then date.year - 1 else date.year
  let era := Int.fdiv year 400
  let yearOfEra := year - era * 400
  let month : Int := if 2 < date.month then (date.month : Int) - 3 else (date.month : Int) + 9
  -- from March on, every five months have 153 days
  let dayOfYear := (153 * month + 2) / 5 + (date.day : Int) - 1
  let dayOfEra := yearOfEra * 365 + yearOfEra / 4 - yearOfEra / 100 + dayOfYear
  -- the beginning of 1970 is 719468 days after the first of March of the year zero
  era * 146097 + dayOfEra - 719468

/-- The date of a number of days since the beginning of 1970. -/
def dateOfDays (days : Int) : Date :=
  let shifted := days + 719468
  let era := Int.fdiv shifted 146097
  let dayOfEra := shifted - era * 146097
  -- leap days are taken out before the years are counted
  let yearOfEra := (dayOfEra - dayOfEra / 1460 + dayOfEra / 36524 - dayOfEra / 146096) / 365
  let dayOfYear := dayOfEra - (365 * yearOfEra + yearOfEra / 4 - yearOfEra / 100)
  let month := (5 * dayOfYear + 2) / 153
  let day := (dayOfYear - (153 * month + 2) / 5 + 1).toNat
  let civilMonth := if month < 10 then (month + 3).toNat else (month - 9).toNat
  let year := yearOfEra + era * 400
  ⟨if civilMonth ≤ 2 then year + 1 else year, civilMonth, day⟩

/-- Whole milliseconds since the beginning of 1970. -/
def unixMillis (timestamp : Timestamp) : Int :=
  timestamp.seconds * 1000 + (timestamp.nanos / 1000000 : Nat)

/-! ## Writing -/

/-- A number with leading zeros up to a width. -/
def padded (width n : Nat) : List Char :=
  let digits := Nat.toDigits 10 n
  List.replicate (width - digits.length) '0' ++ digits

/-- Years outside four digits carry a sign. -/
def yearText (year : Int) : List Char :=
  if 0 ≤ year ∧ year ≤ 9999 then padded 4 year.toNat
  else (if year < 0 then '-' else '+') :: padded 4 year.natAbs

/-- The decimal places of a second, in groups of three. -/
def fractionText (nanos : Nat) : List Char :=
  if nanos = 0 then []
  else if nanos % 1000000 = 0 then '.' :: padded 3 (nanos / 1000000)
  else if nanos % 1000 = 0 then '.' :: padded 6 (nanos / 1000)
  else '.' :: padded 9 nanos

/-- The written form, in UTC. -/
def text (timestamp : Timestamp) : String :=
  let date := dateOfDays (Int.fdiv timestamp.seconds 86400)
  let second := (Int.fmod timestamp.seconds 86400).toNat
  -- a leap second is the second number sixty
  let leap := timestamp.nanos / 1000000000
  let nanos := timestamp.nanos % 1000000000
  String.ofList (yearText date.year ++ '-' :: padded 2 date.month ++ '-' :: padded 2 date.day ++
    'T' :: padded 2 (second / 3600) ++ ':' :: padded 2 (second / 60 % 60) ++
    ':' :: padded 2 (second % 60 + leap) ++ fractionText nanos ++ ['Z'])

/-! ## Reading -/

/-- A character that separates without meaning. -/
def isSpace (c : Char) : Bool :=
  let n := c.toNat
  (9 ≤ n && n ≤ 13) || n = 0x20 || n = 0x85 || n = 0xa0 || n = 0x1680 ||
    (0x2000 ≤ n && n ≤ 0x200a) || n = 0x2028 || n = 0x2029 || n = 0x202f || n = 0x205f || n = 0x3000

def skipSpaces (text : List Char) : List Char := text.dropWhile isSpace

/-- The digits at the start of a text, at most `width` of them and at least one. -/
def readDigits? (width : Nat) (text : List Char) : Option (List Char × List Char) :=
  let digits := (text.take width).takeWhile Char.isDigit
  if digits.isEmpty then none else some (digits, text.drop digits.length)

/-- A number of at most `width` digits, after spaces. -/
def readNumber? (width : Nat) (text : List Char) : Option (Nat × List Char) :=
  (readDigits? width (skipSpaces text)).map fun (digits, rest) =>
    (Nat.ofDigitChars 10 digits 0, rest)

/-- A year: four digits at most, or any number of digits after a sign. -/
def readYear? (text : List Char) : Option (Int × List Char) :=
  match skipSpaces text with
  | '-' :: rest =>
    (readDigits? rest.length rest).map fun (digits, rest) =>
      (-(Nat.ofDigitChars 10 digits 0 : Int), rest)
  | '+' :: rest =>
    (readDigits? rest.length rest).map fun (digits, rest) =>
      ((Nat.ofDigitChars 10 digits 0 : Int), rest)
  | text =>
    (readDigits? 4 text).map fun (digits, rest) => ((Nat.ofDigitChars 10 digits 0 : Int), rest)

/-- A mark, after spaces. -/
def readMark? (mark : Char) (text : List Char) : Option (List Char) :=
  match skipSpaces text with
  | c :: rest => if c = mark then some rest else none
  | [] => none

/-- The decimal places of a second; those beyond the ninth are dropped. -/
def readFraction? (text : List Char) : Option (Nat × List Char) :=
  match text with
  | '.' :: rest => do
    let (digits, rest) ← readDigits? 9 rest
    let nanos := Nat.ofDigitChars 10 digits 0 * 10 ^ (9 - digits.length)
    some (nanos, rest.dropWhile Char.isDigit)
  | _ => some (0, text)

/-- Two digits, side by side. -/
def readPair? (text : List Char) : Option (Nat × List Char) :=
  match text with
  | a :: b :: rest =>
    if a.isDigit && b.isDigit then some (Nat.ofDigitChars 10 [a, b] 0, rest) else none
  | _ => none

/-- The hours and minutes of an offset, in seconds. -/
def readHoursAndMinutes? (text : List Char) : Option (Nat × List Char) := do
  let (hours, rest) ← readPair? text
  let (minutes, rest) ← readPair? (rest.dropWhile fun c => c = ':' || isSpace c)
  if minutes < 60 && hours < 24 then some (hours * 3600 + minutes * 60, rest) else none

/-- An offset from UTC in seconds. -/
def readOffset? (text : List Char) : Option (Int × List Char) :=
  match text with
  | 'Z' :: rest | 'z' :: rest => some (0, rest)
  | '+' :: rest => (readHoursAndMinutes? rest).map fun (offset, rest) => ((offset : Int), rest)
  | '-' :: rest | '−' :: rest =>
    (readHoursAndMinutes? rest).map fun (offset, rest) => (-(offset : Int), rest)
  | a :: b :: c :: rest =>
    if a.toUpper = 'U' && b.toUpper = 'T' && c.toUpper = 'C' then some (0, rest) else none
  | _ => none

/-- The greatest year of the calendar. -/
def greatestYear : Int := 262142

/-- The least year of the calendar. -/
def leastYear : Int := -262143

/-- Whether the calendar has a year. -/
def hasYear (year : Int) : Bool := leastYear ≤ year && year ≤ greatestYear

/-- The timestamp of a text, if the whole text is one. The calendar has the written date and also
the date in UTC. -/
def read? (text : String) : Option Timestamp := do
  let (year, rest) ← readYear? text.toList
  let rest ← readMark? '-' rest
  let (month, rest) ← readNumber? 2 rest
  let rest ← readMark? '-' rest
  let (day, rest) ← readNumber? 2 rest
  let rest ← match rest with
    | 't' :: rest | 'T' :: rest | ' ' :: rest => some rest
    | _ => none
  let (hour, rest) ← readNumber? 2 rest
  let rest ← readMark? ':' rest
  let (minute, rest) ← readNumber? 2 rest
  let rest ← readMark? ':' rest
  let (second, rest) ← readNumber? 2 rest
  let (nanos, rest) ← readFraction? rest
  let (offset, rest) ← readOffset? (skipSpaces rest)
  if !(skipSpaces rest).isEmpty then none
  if !hasYear year then none
  if !(1 ≤ month && month ≤ 12 && 1 ≤ day && day ≤ daysOfMonth year month) then none
  if !(hour < 24 && minute < 60 && second ≤ 60) then none
  -- the second number sixty is kept as a second billion of nanoseconds
  let leap := second / 60
  let seconds := daysOfDate ⟨year, month, day⟩ * 86400 +
    ((hour * 3600 + minute * 60 + (second - leap) : Nat) : Int) - offset
  if !hasYear (dateOfDays (Int.fdiv seconds 86400)).year then none
  some ⟨seconds, nanos + leap * 1000000000⟩

end Timestamp

end Resilience
