import Mathlib.Data.Int.Order.Basic
import Mathlib.Algebra.Order.Ring.Int

namespace Starweaver.Library.Calendar

/-- A UTC instant, counted in nanoseconds from the Unix epoch. -/
structure DateTime where
  nanos : Int
deriving DecidableEq, Repr

namespace DateTime

instance : LE DateTime := ⟨fun a b => a.nanos ≤ b.nanos⟩
instance : LT DateTime := ⟨fun a b => a.nanos < b.nanos⟩
instance (a b : DateTime) : Decidable (a ≤ b) := inferInstanceAs (Decidable (a.nanos ≤ b.nanos))
instance (a b : DateTime) : Decidable (a < b) := inferInstanceAs (Decidable (a.nanos < b.nanos))

def max (a b : DateTime) : DateTime := if a ≤ b then b else a

def addSeconds (t : DateTime) (seconds : Int) : DateTime := ⟨t.nanos + seconds * 1000000000⟩

/-- Whole seconds since the epoch, rounded towards minus infinity. -/
def timestamp (t : DateTime) : Int := t.nanos / 1000000000

def minTimestamp : Int := -8334601228800
def maxTimestamp : Int := 8210266876799

/-- The instant of a whole second, `none` outside the calendar's range. -/
def fromTimestamp (seconds : Int) : Option DateTime :=
  if minTimestamp ≤ seconds ∧ seconds ≤ maxTimestamp then some ⟨seconds * 1000000000⟩ else none

def dateNaive (t : DateTime) : Int := t.timestamp / 86400

end DateTime

/-- Years, months and days are counted in the proleptic Gregorian calendar, with the year taken to
start in March so that the leap day comes last. -/
structure Civil where
  year : Int
  month : Int
  day : Int
deriving DecidableEq, Repr

def civilFromDays (days : Int) : Civil :=
  let z := days + 719468
  let era := z / 146097
  let doe := z - era * 146097
  let yoe := (doe - doe / 1460 + doe / 36524 - doe / 146096) / 365
  let doy := doe - (365 * yoe + yoe / 4 - yoe / 100)
  let mp := (5 * doy + 2) / 153
  let month := if mp < 10 then mp + 3 else mp - 9
  ⟨yoe + era * 400 + (if month ≤ 2 then 1 else 0), month, doy - (153 * mp + 2) / 5 + 1⟩

def daysFromCivil (date : Civil) : Int :=
  let y := if date.month ≤ 2 then date.year - 1 else date.year
  let era := y / 400
  let yoe := y - era * 400
  let doy := (153 * (if 2 < date.month then date.month - 3 else date.month + 9) + 2) / 5 + date.day - 1
  let doe := yoe * 365 + yoe / 4 - yoe / 100 + doy
  era * 146097 + doe - 719468

example : civilFromDays 20632 = ⟨2026, 6, 28⟩ := by decide

namespace DateTime

def civil (t : DateTime) : Civil := civilFromDays t.dateNaive
def year (t : DateTime) : Int := t.civil.year
def month (t : DateTime) : Int := t.civil.month

def midnight (date : Civil) : DateTime := ⟨daysFromCivil date * 86400 * 1000000000⟩

end DateTime

end Starweaver.Library.Calendar
