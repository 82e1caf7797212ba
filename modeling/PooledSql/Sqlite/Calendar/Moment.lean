import PooledSql.Sqlite.Calculation

/-!
# Moments

A moment is known as an instant, as a day and a clock in the Gregorian calendar, or as a number that
may still mean one thing or another. An instant is counted in milliseconds from noon of the day that
has the number zero, on November 24 of the year -4713. What is known of a moment is turned into the
other forms only when these are asked for, so that a day which its month does not have stays as it
was written until then.
-/

namespace PooledSql.Sqlite

/-- A day of the calendar, or a day that a month does not have. -/
structure Day where
  year : Int
  month : Int
  day : Int
deriving DecidableEq, Repr

namespace Day

/-- The day of a clock that stands alone. -/
def ofClocks : Day := ⟨2000, 1, 1⟩

/-- The year has a leap day. -/
def isLeap (year : Int) : Bool := year % 4 == 0 && (year % 100 != 0 || year % 400 == 0)

/-- How many days a month has. -/
def monthLength (year month : Int) : Int :=
  if month = 2 then (if isLeap year then 29 else 28)
  else if month = 4 ∨ month = 6 ∨ month = 9 ∨ month = 11 then 30
  else 31

/-- The first day of the month. -/
def inMonth (d : Day) : Day := { d with day := 1 }

/-- The first day of the year. -/
def inYear (d : Day) : Day := { d with month := 1, day := 1 }

/-- By how many days the day lies behind the end of its month. -/
def excess (d : Day) : Int := max 0 (d.day - monthLength d.year d.month)

/-- The same with months beyond the year carried into years. -/
def carried (d : Day) : Day :=
  let years := (d.month - 1) / 12
  { d with year := d.year + years, month := d.month - 12 * years }

end Day

/-- A time of the day. -/
structure Clock where
  hour : Int
  minute : Int
  second : Float

/-- A moment, as far as it is known. -/
structure Moment where
  /-- Milliseconds since noon of the day zero. -/
  instant : Option Int := none
  day : Option Day := none
  clock : Option Clock := none
  /-- How many minutes the clock is ahead, which still has to be taken into account. -/
  zone : Int := 0
  /-- A number that was given in place of a moment. -/
  number : Option Float := none
  /-- How many days the day lay behind the end of its month. -/
  excess : Int := 0
  /-- Milliseconds are to be shown. -/
  showsParts : Bool := false
  /-- It turned out to be no moment. -/
  isLost : Bool := false

namespace Moment

/-- Milliseconds in a day. -/
def dayLength : Int := 86400000

/-- Half a day. -/
def noon : Int := 43200000

/-- The instant at which the years since 1970 begin. -/
def epoch : Int := 210866760000000

/-- The last instant. -/
def lastInstant : Int := 464269060799999

/-- The number without its fraction. -/
def whole (x : Float) : Int := (Calculation.truncated ⟨x.toBits⟩).toInt

/-- A number as a machine number. -/
def toFloat (n : Int) : Float := Float.ofBits (Double.ofInt n).bits

/-- The instant lies between the first and the last one. -/
def isInstant (n : Int) : Bool := decide (0 ≤ n) && decide (n ≤ lastInstant)

/-- What is left once it turned out that there is no moment. -/
def lost : Moment := { isLost := true }

/-! ## Instants -/

/-- The instant at which a day begins. -/
def startOf (d : Day) : Int :=
  let (year, month) := if d.month ≤ 2 then (d.year - 1, d.month + 12) else (d.year, d.month)
  let century := (year + 4800) / 100
  let leaps := 38 - century + century / 4
  let days := 36525 * (year + 4716) / 100 + 306001 * (month + 1) / 10000 + d.day + leaps
  (2 * days - 3049) * noon

/-- The milliseconds of a clock. -/
def ofClock (c : Clock) : Int :=
  3600000 * c.hour + 60000 * c.minute + whole (c.second * 1000.0 + 0.5)

/-- The moment with its instant, from which the difference of clocks was taken away. -/
def located (m : Moment) : Moment :=
  if m.instant.isSome then m
  else
    let d := m.day.getD .ofClocks
    if d.year < -4713 ∨ 9999 < d.year ∨ m.number.isSome then lost
    else
      match m.clock with
      | none => { m with instant := some (startOf d) }
      | some c =>
        let instant := startOf d + ofClock c
        if m.zone = 0 then { m with instant := some instant }
        else
          { m with
            instant := some (instant - 60000 * m.zone), day := none, clock := none, zone := 0 }

/-- The instant of a moment that has one. -/
def place (m : Moment) : Int := m.instant.getD 0

/-- What is known is the instant alone. -/
def bare (m : Moment) : Moment := { m with day := none, clock := none, zone := 0 }

/-- The moment at an instant. -/
def ofInstant (n : Int) : Moment := { instant := some n }

/-- The moment moved by some milliseconds. -/
def moved (m : Moment) (n : Int) : Moment := { m with instant := some (m.place + n) }

/-! ## Days and clocks -/

/-- The day of an instant. -/
def dayOf (instant : Int) : Day :=
  let number := (instant + noon) / dayLength
  let century := (4 * number + 128179) / 146097 - 52
  let b := number + 1 + century - (century + 100) / 4 + 25 + 1524
  let year := (20 * b - 2442) / 7305
  let start := 36525 * year / 100
  let month := (b - start) * 10000 / 306001
  let day := b - start - 306001 * month / 10000
  let month := if month < 14 then month - 1 else month - 13
  ⟨if 2 < month then year - 4716 else year - 4715, month, day⟩

/-- The moment with its day. -/
def dated (m : Moment) : Moment :=
  if m.day.isSome then m
  else
    match m.instant with
    | none => { m with day := some .ofClocks }
    | some n => if isInstant n then { m with day := some (dayOf n) } else lost

/-- The clock of an instant. -/
def clockOf (instant : Int) : Clock :=
  let parts := (instant + noon).tmod dayLength
  let minutes := parts.tdiv 60000
  ⟨minutes.tdiv 60, minutes.tmod 60, toFloat (parts.tmod 60000) / 1000.0⟩

/-- The moment with its clock. -/
def clocked (m : Moment) : Moment :=
  if m.clock.isSome then m
  else
    let m := m.located
    { m with clock := some (clockOf m.place), number := none }

/-- The moment with its day and its clock. -/
def written (m : Moment) : Moment := m.dated.clocked

/-- The day of a moment that has one. -/
def theDay (m : Moment) : Day := m.day.getD ⟨0, 0, 0⟩

/-- The clock of a moment that has one. -/
def theClock (m : Moment) : Clock := m.clock.getD ⟨0, 0, 0⟩

/-! ## Years and weeks -/

/-- How many days lie between the first day of the year and the moment. -/
def daysInYear (m : Moment) : Int :=
  let first : Moment := { m with instant := none, day := m.day.map Day.inYear }
  (m.place - first.located.place + noon).tdiv dayLength

/-- How many days lie between a Monday and the moment. -/
def daysAfterMonday (m : Moment) : Int := ((m.place + noon).tdiv dayLength).tmod 7

/-- How many days lie between a Sunday and the moment. -/
def daysAfterSunday (m : Moment) : Int := ((m.place + noon + dayLength).tdiv dayLength).tmod 7

/-- The Thursday of the week. -/
def thursday (m : Moment) : Moment :=
  let m := m.moved ((3 - m.daysAfterMonday) * dayLength)
  Moment.dated { m with day := none }

end Moment

end PooledSql.Sqlite
