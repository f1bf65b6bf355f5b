namespace NodeCanvas

structure Instant where
  millis : Int
deriving DecidableEq

structure Date where
  year : Int
  month : Nat
  day : Nat
deriving DecidableEq

namespace Date

/-- The days before the first of a month in years that start in March. -/
def daysBeforeMonth (month : Nat) : Nat := (153 * month + 2) / 5

/-- The date that is some days after the first of March of the year zero. -/
def ofMarchDays (days : Int) : Date :=
  let era := days / 146097
  let dayOfEra := (days % 146097).toNat
  let yearOfEra := (dayOfEra - dayOfEra / 1460 + dayOfEra / 36524 - dayOfEra / 146096) / 365
  let dayOfYear := dayOfEra - (365 * yearOfEra + yearOfEra / 4 - yearOfEra / 100)
  let month := (5 * dayOfYear + 2) / 153
  let year : Int := yearOfEra + 400 * era
  { year := if month < 10 then year else year + 1
    month := if month < 10 then month + 3 else month - 9
    day := dayOfYear - daysBeforeMonth month + 1 }

def ofDays (days : Int) : Date := ofMarchDays (days + 719468)

end Date

def padded (width n : Nat) : String :=
  let digits := toString n
  "".pushn '0' (width - digits.length) ++ digits

namespace Instant

def millisPerDay : Int := 86400000

def date (t : Instant) : Date := Date.ofDays (t.millis / millisPerDay)

def millisOfDay (t : Instant) : Nat := (t.millis % millisPerDay).toNat

/-- Years have four digits, and a sign outside the years 0 to 9999. -/
def yearText (year : Int) : String :=
  if 0 ≤ year ∧ year ≤ 9999 then padded 4 year.toNat
  else (if year < 0 then "-" else "+") ++ padded 4 year.natAbs

def dateText (t : Instant) : String :=
  let d := t.date
  yearText d.year ++ "-" ++ padded 2 d.month ++ "-" ++ padded 2 d.day

def timestamp (t : Instant) : String :=
  let m := t.millisOfDay
  t.dateText ++ "T" ++ padded 2 (m / 3600000) ++ ":" ++ padded 2 (m / 60000 % 60) ++ ":"
    ++ padded 2 (m / 1000 % 60) ++ "." ++ padded 3 (m % 1000) ++ "Z"

end Instant

end NodeCanvas
