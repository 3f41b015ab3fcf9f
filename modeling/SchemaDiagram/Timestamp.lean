import SchemaDiagram.Text.Blank
import SchemaDiagram.Text.Word
import SchemaDiagram.Text.Digits

/-!
# Timestamps

A point in time in UTC.  It is read from the RFC 3339 profile of ISO 8601, with some latitude in
blanks, the separator of date and time, and the form of the offset.  It is written in UTC with `Z`
and the fewest of 0, 3, 6 or 9 fraction digits that lose nothing.
-/

namespace SchemaDiagram

/-- A point in time: whole seconds since the beginning of 1970 in UTC and nanoseconds on top.  A
leap second is the second before it with a billion nanoseconds or more. -/
structure Timestamp where
  seconds : Int
  nanos : Nat
  deriving DecidableEq, Repr

namespace Timestamp

open SchemaDiagram.Text

instance : Inhabited Timestamp := ⟨⟨0, 0⟩⟩

/-- Whether one point in time is not later than another one. -/
def notAfter (left right : Timestamp) : Bool :=
  left.seconds < right.seconds || (left.seconds == right.seconds && left.nanos ≤ right.nanos)

/-! ## The calendar -/

/-- A date of the proleptic Gregorian calendar. -/
structure Date where
  year : Int
  month : Nat
  day : Nat
  deriving DecidableEq, Repr

def isLeap (year : Int) : Bool :=
  Int.emod year 4 == 0 && (Int.emod year 100 != 0 || Int.emod year 400 == 0)

def daysInMonth (year : Int) (month : Nat) : Nat :=
  if month = 2 then (if isLeap year then 29 else 28)
  else if month = 4 ∨ month = 6 ∨ month = 9 ∨ month = 11 then 30
  else 31

/-- The days from the beginning of 1970 to a date.  Years are counted from March, so that a leap
day is the last day of its year. -/
def Date.toDays (date : Date) : Int :=
  let year := if date.month ≤ 2 then date.year - 1 else date.year
  let era := Int.fdiv year 400
  let yearOfEra := year - era * 400
  let shifted : Int := (date.month + 9) % 12
  let dayOfYear := (153 * shifted + 2) / 5 + date.day - 1
  let dayOfEra := yearOfEra * 365 + yearOfEra / 4 - yearOfEra / 100 + dayOfYear
  era * 146097 + dayOfEra - 719468

/-- The date a number of days from the beginning of 1970. -/
def Date.ofDays (days : Int) : Date :=
  let shifted := days + 719468
  let era := Int.fdiv shifted 146097
  let dayOfEra := shifted - era * 146097
  let yearOfEra := (dayOfEra - dayOfEra / 1460 + dayOfEra / 36524 - dayOfEra / 146096) / 365
  let dayOfYear := dayOfEra - (365 * yearOfEra + yearOfEra / 4 - yearOfEra / 100)
  let monthFromMarch := (5 * dayOfYear + 2) / 153
  let day := dayOfYear - (153 * monthFromMarch + 2) / 5 + 1
  let month := if monthFromMarch < 10 then monthFromMarch + 3 else monthFromMarch - 9
  let year := yearOfEra + era * 400 + (if month ≤ 2 then 1 else 0)
  ⟨year, month.toNat, day.toNat⟩

/-! ## Writing -/

/-- A year in four digits, or with a sign and at least four digits if it lies outside 0 to 9999. -/
def writeYear (year : Int) : List Char :=
  if 0 ≤ year ∧ year ≤ 9999 then fixedDigits 10 4 year.toNat
  else
    (if year < 0 then '-' else '+') ::
      fixedDigits 10 (max 4 (decimalLength year.natAbs)) year.natAbs

/-- The fraction of a second in the fewest of 0, 3, 6 or 9 digits. -/
def writeFraction (nanos : Nat) : List Char :=
  if nanos = 0 then []
  else if nanos % 1000000 = 0 then '.' :: fixedDigits 10 3 (nanos / 1000000)
  else if nanos % 1000 = 0 then '.' :: fixedDigits 10 6 (nanos / 1000)
  else '.' :: fixedDigits 10 9 nanos

def write (time : Timestamp) : List Char :=
  let days := Int.fdiv time.seconds 86400
  let secondOfDay := (time.seconds - days * 86400).toNat
  let date := Date.ofDays days
  let leap := time.nanos / 1000000000
  writeYear date.year ++ '-' :: fixedDigits 10 2 date.month ++ '-' :: fixedDigits 10 2 date.day ++
    'T' :: fixedDigits 10 2 (secondOfDay / 3600) ++
    ':' :: fixedDigits 10 2 (secondOfDay / 60 % 60) ++
    ':' :: fixedDigits 10 2 (secondOfDay % 60 + leap) ++
    writeFraction (time.nanos - leap * 1000000000) ++ ['Z']

def toText (time : Timestamp) : String :=
  String.ofList time.write

/-! ## Reading -/

/-- The first years that lie outside the supported range, on either side. -/
def yearBounds : Int × Int := (-262144, 262143)

/-- At most `width` decimal digits from the front of a text; nothing if there is none. -/
def takeNumber? (width : Option Nat) (text : List Char) : Option (Nat × List Char) :=
  let digits := ((width.map text.take).getD text).takeWhile isDecimal
  (decimalNumber? digits).map fun value => (value, text.drop digits.length)

/-- A year: up to four digits, or a sign and any number of them. -/
def takeYear? (text : List Char) : Option (Int × List Char) :=
  match trimStart text with
  | '-' :: rest => (takeNumber? none rest).map fun (value, rest) => (-(value : Int), rest)
  | '+' :: rest => (takeNumber? none rest).map fun (value, rest) => ((value : Int), rest)
  | rest => (takeNumber? (some 4) rest).map fun (value, rest) => ((value : Int), rest)

/-- One or two digits with a value in a range, blanks in front skipped. -/
def takeTwo? (low high : Nat) (text : List Char) : Option (Nat × List Char) := do
  let (value, rest) ← takeNumber? (some 2) (trimStart text)
  guard (low ≤ value ∧ value ≤ high)
  return (value, rest)

/-- A separator, blanks in front skipped. -/
def takeMark? (mark : Char) (text : List Char) : Option (List Char) :=
  match trimStart text with
  | c :: rest => if c = mark then some rest else none
  | [] => none

/-- The nanoseconds of an optional fraction; digits behind the ninth are dropped. -/
def takeFraction? (text : List Char) : Option (Nat × List Char) :=
  match text with
  | '.' :: rest => do
    let digits := (rest.take 9).takeWhile isDecimal
    let value ← decimalNumber? digits
    return (value * Nat.pow 10 (9 - digits.length), rest.dropWhile isDecimal)
  | _ => some (0, text)

/-- The hours and minutes of an offset, as seconds. -/
def takeHoursMinutes? (text : List Char) : Option (Nat × List Char) := do
  guard (2 ≤ text.length)
  let hours ← decimalNumber? (text.take 2)
  let rest := (text.drop 2).dropWhile fun c => c == ':' || isBlank c
  guard (2 ≤ rest.length)
  let minutes ← decimalNumber? (rest.take 2)
  guard (minutes ≤ 59)
  return (hours * 3600 + minutes * 60, rest.drop 2)

/-- The offset from UTC in seconds: `Z`, `UTC`, or a sign with hours and minutes. -/
def takeOffset? (text : List Char) : Option (Int × List Char) :=
  match afterPrefixIgnoringCase? ['u', 't', 'c'] text with
  | some rest => some (0, rest)
  | none =>
    match text with
    | 'Z' :: rest => some (0, rest)
    | 'z' :: rest => some (0, rest)
    | '+' :: rest => (takeHoursMinutes? rest).map fun (value, rest) => ((value : Int), rest)
    | '-' :: rest => (takeHoursMinutes? rest).map fun (value, rest) => (-(value : Int), rest)
    | '−' :: rest => (takeHoursMinutes? rest).map fun (value, rest) => (-(value : Int), rest)
    | _ => none

/-- Read a point in time; nothing if the text is malformed, names no date of the calendar or leaves
the supported years. -/
def read? (text : List Char) : Option Timestamp := do
  let (year, text) ← takeYear? text
  let text ← takeMark? '-' text
  let (month, text) ← takeTwo? 1 12 text
  let text ← takeMark? '-' text
  let (day, text) ← takeTwo? 1 31 text
  let text ← match text with
    | c :: rest => if c = 't' ∨ c = 'T' ∨ c = ' ' then some rest else none
    | [] => none
  let (hour, text) ← takeTwo? 0 23 text
  let text ← takeMark? ':' text
  let (minute, text) ← takeTwo? 0 59 text
  let text ← takeMark? ':' text
  let (second, text) ← takeTwo? 0 60 text
  let (nanos, text) ← takeFraction? text
  let (offset, text) ← takeOffset? (trimStart text)
  guard (trimStart text).isEmpty
  guard (-86400 < offset ∧ offset < 86400)
  guard (day ≤ daysInMonth year month)
  let (tooEarly, tooLate) := yearBounds
  guard (tooEarly < year ∧ year < tooLate)
  let days := (Date.mk year month day).toDays
  let leap := second / 60
  let seconds := days * 86400 + hour * 3600 + minute * 60 + (second - leap) - offset
  let utcYear := (Date.ofDays (Int.fdiv seconds 86400)).year
  guard (tooEarly < utcYear ∧ utcYear < tooLate)
  return ⟨seconds, nanos + leap * 1000000000⟩

end Timestamp

end SchemaDiagram
