import Mathlib.Algebra.Ring.Int.Defs
import Mathlib.Data.Int.Basic
import Mathlib.Tactic.Common

/-! Instants and their civil time in UTC. An instant counts microseconds from
1970-01-01T00:00:00Z; the calendar is the proleptic Gregorian one. -/

namespace Calendar

abbrev Instant := Int

/-- A duration in whole seconds. -/
def seconds (n : Int) : Int := n * 1000000

structure Civil where
  year : Int
  month : Int
  day : Int

/-- The date of a day number, by four-hundred-year eras that start in March. -/
def civil (days : Int) : Civil :=
  let z := days + 719468
  let era := z / 146097
  let dayOfEra := z % 146097
  let yearOfEra := (dayOfEra - dayOfEra / 1460 + dayOfEra / 36524 - dayOfEra / 146096) / 365
  let dayOfYear := dayOfEra - (365 * yearOfEra + yearOfEra / 4 - yearOfEra / 100)
  let shifted := (5 * dayOfYear + 2) / 153
  let month := if shifted < 10 then shifted + 3 else shifted - 9
  ⟨yearOfEra + era * 400 + (if month ≤ 2 then 1 else 0), month,
    dayOfYear - (153 * shifted + 2) / 5 + 1⟩

/-- Decimal text with leading zeros. -/
def padded (width : Nat) (n : Int) : List Char :=
  let digits := Nat.toDigits 10 n.toNat
  List.replicate (width - digits.length) '0' ++ digits

def microsPerDay : Int := 86400000000

def dateText (t : Instant) : List Char :=
  let date := civil (t / microsPerDay)
  padded 4 date.year ++ '-' :: padded 2 date.month ++ '-' :: padded 2 date.day

/-- `strftime("%H:%M")` -/
def hourMinuteText (t : Instant) : List Char :=
  let ofDay := t % microsPerDay
  padded 2 (ofDay / 3600000000) ++ ':' :: padded 2 (ofDay % 3600000000 / 60000000)

/-- `isoformat()` of an aware UTC datetime: microseconds only when they are not zero. -/
def isoformat (t : Instant) : String :=
  let micros := t % 1000000
  let fraction := if micros = 0 then [] else '.' :: padded 6 micros
  String.ofList (dateText t ++ 'T' :: hourMinuteText t ++ ':' ::
    padded 2 (t % 60000000 / 1000000) ++ fraction ++ "+00:00".toList)

def isoDate (t : Instant) : String := String.ofList (dateText t)

def hourMinute (t : Instant) : String := String.ofList (hourMinuteText t)

/-- `replace(minute=0, second=0, microsecond=0)` -/
def startOfHour (t : Instant) : Instant := t - t % 3600000000

example : isoformat 1721044800000000 = "2024-07-15T12:00:00+00:00" := by decide
example : isoformat 951827696000007 = "2000-02-29T12:34:56.000007+00:00" := by decide

end Calendar
