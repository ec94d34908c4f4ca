import Mathlib.Data.List.Basic
import Mathlib.Data.String.Basic

/-! The text of a moment, from its milliseconds since 1970 in universal time. -/

namespace JsDate

def pad (width n : Nat) : String :=
  let digits := Nat.toDigits 10 n
  String.ofList (List.replicate (width - digits.length) '0' ++ digits)

structure CivilDate where
  year : Int
  month : Nat
  day : Nat

def civilFromDays (days : Int) : CivilDate :=
  let shifted := days + 719468
  let era := shifted / 146097
  let dayOfEra := (shifted % 146097).toNat
  let yearOfEra := (dayOfEra - dayOfEra / 1460 + dayOfEra / 36524 - dayOfEra / 146096) / 365
  let dayOfYear := dayOfEra - (365 * yearOfEra + yearOfEra / 4 - yearOfEra / 100)
  let shiftedMonth := (5 * dayOfYear + 2) / 153
  let month := if shiftedMonth < 10 then shiftedMonth + 3 else shiftedMonth - 9
  { year := yearOfEra + era * 400 + if month ≤ 2 then 1 else 0
    month
    day := dayOfYear - (153 * shiftedMonth + 2) / 5 + 1 }

def yearText (year : Int) : String :=
  if 0 ≤ year ∧ year ≤ 9999 then pad 4 year.toNat
  else if 0 ≤ year then "+" ++ pad 6 year.toNat
  else "-" ++ pad 6 (-year).toNat

def toISOString (time : Int) : String :=
  let date := civilFromDays (time / 86400000)
  let milliseconds := (time % 86400000).toNat
  yearText date.year ++ "-" ++ pad 2 date.month ++ "-" ++ pad 2 date.day ++ "T" ++
    pad 2 (milliseconds / 3600000) ++ ":" ++ pad 2 (milliseconds / 60000 % 60) ++ ":" ++
    pad 2 (milliseconds / 1000 % 60) ++ "." ++ pad 3 (milliseconds % 1000) ++ "Z"

example : toISOString 951782399999 = "2000-02-28T23:59:59.999Z" := by decide +kernel

example : toISOString 951782400000 = "2000-02-29T00:00:00.000Z" := by decide +kernel

def daysToMonth (year month : Int) : Int :=
  let monthsFromMarch := year * 12 + month - 2
  let shiftedYear := monthsFromMarch / 12
  let era := shiftedYear / 400
  let yearOfEra := shiftedYear % 400
  let dayOfYear := (153 * (monthsFromMarch % 12) + 2) / 5
  era * 146097 + yearOfEra * 365 + yearOfEra / 4 - yearOfEra / 100 + dayOfYear - 719468

/-- `Date.UTC`, which takes a year below 100 for one of the twentieth century. -/
def utc (year month day hours minutes seconds : Int) : Int :=
  let fullYear := if 0 ≤ year ∧ year ≤ 99 then 1900 + year else year
  (daysToMonth fullYear month + day - 1) * 86400000 + hours * 3600000 + minutes * 60000 + seconds * 1000

example : toISOString (utc 2026 1 29 (-3) 30 45) = "2026-02-28T21:30:45.000Z" := by decide +kernel

end JsDate
