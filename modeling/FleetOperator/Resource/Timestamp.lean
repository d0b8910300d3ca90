import FleetOperator.Codec.Basic

/-!
# Timestamps

Points in time as Kubernetes writes them: a date and a time of day in UTC with whole seconds. A
timestamp is read with any offset and any fraction of a second.
-/

namespace FleetOperator

/-- A point in time: the seconds since the start of 1970, with the fraction of a second dropped. -/
structure Timestamp where
  seconds : Int
deriving DecidableEq, Repr, Inhabited

namespace Timestamp

/-- The days from the start of 1970 to a date of the proleptic Gregorian calendar. -/
def daysOfDate (year month day : Int) : Int :=
  let y := if month ≤ 2 then year - 1 else year
  let era := y.fdiv 400
  let yearOfEra := y - era * 400
  let dayOfYear := (153 * (if month > 2 then month - 3 else month + 9) + 2) / 5 + day - 1
  era * 146097 + (yearOfEra * 365 + yearOfEra / 4 - yearOfEra / 100 + dayOfYear) - 719468

/-- The year, the month and the day of a number of days since the start of 1970. -/
def dateOfDays (days : Int) : Int × Int × Int :=
  let z := days + 719468
  let era := z.fdiv 146097
  let dayOfEra := z - era * 146097
  let yearOfEra := (dayOfEra - dayOfEra / 1460 + dayOfEra / 36524 - dayOfEra / 146096) / 365
  let dayOfYear := dayOfEra - (365 * yearOfEra + yearOfEra / 4 - yearOfEra / 100)
  let shifted := (5 * dayOfYear + 2) / 153
  let month := if shifted < 10 then shifted + 3 else shifted - 9
  let year := yearOfEra + era * 400 + if month ≤ 2 then 1 else 0
  (year, month, dayOfYear - (153 * shifted + 2) / 5 + 1)

/-- The number of days in a month. -/
def daysInMonth (year month : Int) : Int :=
  if month = 2 then
    if year % 4 = 0 ∧ (year % 100 ≠ 0 ∨ year % 400 = 0) then 29 else 28
  else if month = 4 ∨ month = 6 ∨ month = 9 ∨ month = 11 then 30
  else 31

/-- The number that exactly two digits write, and the text after them. -/
def readTwo : List Char → Option (Int × List Char)
  | a :: b :: rest =>
    if a.isDigit && b.isDigit then some (Digits.toNat [a, b], rest) else none
  | _ => none

/-- The text after a character that is in front of it. -/
def skip (c : Char) : List Char → Option (List Char)
  | first :: rest => if first = c then some rest else none
  | [] => none

/-- The text after a fraction of a second, when there is one. -/
def skipFraction : List Char → Option (List Char)
  | '.' :: rest =>
    if (rest.takeWhile Char.isDigit).isEmpty then none else some (rest.dropWhile Char.isDigit)
  | rest => some rest

/-- The seconds of an offset from UTC that ends a text. -/
def readOffset : List Char → Option Int
  | ['Z'] => some 0
  | ['z'] => some 0
  | sign :: rest => do
    let factor ← if sign = '+' then some 1 else if sign = '-' then some (-1) else none
    let (hours, rest) ← readTwo rest
    let (minutes, rest) ← readTwo ((skip ':' rest).getD rest)
    if rest.isEmpty && hours < 24 && minutes < 60 then some (factor * (hours * 3600 + minutes * 60))
    else none
  | [] => none

/-- The point in time that a text writes. -/
def read? (text : String) : Option Timestamp := do
  let (century, rest) ← readTwo text.toList
  let (years, rest) ← readTwo rest
  let (month, rest) ← readTwo (← skip '-' rest)
  let (day, rest) ← readTwo (← skip '-' rest)
  let rest ← match rest with
    | 'T' :: rest => some rest
    | 't' :: rest => some rest
    | ' ' :: rest => some rest
    | _ => none
  let (hour, rest) ← readTwo rest
  let (minute, rest) ← readTwo (← skip ':' rest)
  let (second, rest) ← readTwo (← skip ':' rest)
  let offset ← readOffset (← skipFraction rest)
  let year := century * 100 + years
  if 1 ≤ month && month ≤ 12 && 1 ≤ day && day ≤ daysInMonth year month
      && hour < 24 && minute < 60 && second < 60 then
    some ⟨daysOfDate year month day * 86400 + hour * 3600 + minute * 60 + second - offset⟩
  else none

/-- A number in at least two digits. -/
def twoDigits (n : Int) : List Char :=
  let digits := Digits.ofNat n.natAbs
  if digits.length < 2 then '0' :: digits else digits

/-- A point in time in UTC with whole seconds. -/
def write (t : Timestamp) : String :=
  let days := t.seconds.fdiv 86400
  let rest := t.seconds - days * 86400
  let (year, month, day) := dateOfDays days
  String.ofList (twoDigits (year / 100) ++ twoDigits (year % 100) ++ ['-'] ++ twoDigits month ++
    ['-'] ++ twoDigits day ++ ['T'] ++ twoDigits (rest / 3600) ++ [':'] ++
    twoDigits (rest / 60 % 60) ++ [':'] ++ twoDigits (rest % 60) ++ ['Z'])

/-- The written form of `Timestamp`. -/
def codec : Codec Timestamp where
  encode t := .text t.write
  decode? source := source.text?.bind read?
  schema := [("format", .text "date-time"), ("type", .text "string")]

end Timestamp

end FleetOperator
