import PooledSql.Sqlite.Calendar.Adjustment
import PooledSql.Sqlite.Function.Formatted

/-!
# Functions of moments

Moments as texts and as numbers, by a format or in fixed forms, and the time between two moments.
What asks for the present time, or for the clocks of this place, may do so only where a value need
not stay the same.
-/

namespace PooledSql.Sqlite.Dates

open Moment (toFloat whole)

/-! ## The present -/

/-- The present time, which nothing that can be seen depends on. -/
def presentInstant : Int := Moment.startOf ⟨2026, 1, 1⟩

/-- What is said of a place where a value has to stay the same. -/
def placeText : Place → String
  | .check => "a CHECK constraint"
  | .generator => "a generated column"
  | .index => "an index"

/-- The present time, where a function may ask for it. -/
def present (name : String) : Option Place → Calculated Int
  | none => .ok presentInstant
  | some place => .error (.volatileUse name (placeText place))

/-! ## Parts -/

/-- A number with zeros in front of it, up to a width. -/
def zeroed (width : Int) (n : Int) : List Char :=
  let field : Formatted.Field := { isZeroed := true, width := width }
  Formatted.integerText field ⟨10, true, true, "", false, false⟩ (Int64.ofInt n)

/-- A number with a blank in front of it, if it has one digit. -/
def spaced (n : Int) : List Char :=
  let digits := (toString n).toList
  List.replicate (2 - digits.length) ' ' ++ digits

/-- A number with three places after the point. -/
def thousandths (width : Int) (x : Float) : List Char :=
  let field : Formatted.Field := { isZeroed := true, width := width, precision := some 3 }
  Formatted.realText field .positional 'e' ⟨x.toBits⟩

/-- A year without its sign, a month and a day. -/
def dateText (d : Day) : List Char :=
  (if d.year < 0 then ['-'] else []) ++ zeroed 4 d.year.natAbs ++ '-' :: zeroed 2 d.month ++
    '-' :: zeroed 2 d.day

/-- A clock, with milliseconds if that is asked for. -/
def clockText (showsParts : Bool) (c : Clock) : List Char :=
  let second :=
    if showsParts then
      let parts := whole (1000.0 * c.second + 0.5)
      zeroed 2 (parts / 1000) ++ '.' :: zeroed 3 (parts % 1000)
    else zeroed 2 (whole c.second)
  zeroed 2 c.hour ++ ':' :: zeroed 2 c.minute ++ ':' :: second

/-- Seconds since 1970 began. -/
def seconds (m : Moment) : Int := m.place / 1000 - Moment.epoch / 1000

/-- Seconds since 1970 began, with milliseconds. -/
def finerSeconds (m : Moment) : Float := toFloat (m.place - Moment.epoch) / 1000.0

/-- Days since noon of the day zero. -/
def days (m : Moment) : Float := toFloat m.place / 86400000.0

/-! ## Formats -/

/-- What a letter in a format stands for. -/
def part? (m : Moment) (letter : Char) : Option (List Char) :=
  let d := m.theDay
  let c := m.theClock
  let halfHour := if 12 < c.hour then c.hour - 12 else c.hour
  let halfHour := if halfHour = 0 then 12 else halfHour
  let isLate := decide (12 ≤ c.hour)
  match letter with
  | 'd' => some (zeroed 2 d.day)
  | 'e' => some (spaced d.day)
  | 'f' => some (thousandths 6 c.second)
  | 'F' => some (zeroed 4 d.year ++ '-' :: zeroed 2 d.month ++ '-' :: zeroed 2 d.day)
  | 'G' => some (zeroed 4 m.thursday.theDay.year)
  | 'g' => some (zeroed 2 (m.thursday.theDay.year.tmod 100))
  | 'H' => some (zeroed 2 c.hour)
  | 'k' => some (spaced c.hour)
  | 'I' => some (zeroed 2 halfHour)
  | 'l' => some (spaced halfHour)
  | 'j' => some (zeroed 3 (m.daysInYear + 1))
  | 'J' => some (Formatted.realText { precision := some 16 } .general 'e' ⟨(days m).toBits⟩)
  | 'm' => some (zeroed 2 d.month)
  | 'M' => some (zeroed 2 c.minute)
  | 'p' => some (if isLate then ['P', 'M'] else ['A', 'M'])
  | 'P' => some (if isLate then ['p', 'm'] else ['a', 'm'])
  | 'R' => some (zeroed 2 c.hour ++ ':' :: zeroed 2 c.minute)
  | 's' =>
    some (if m.showsParts then thousandths 0 (finerSeconds m) else (toString (seconds m)).toList)
  | 'S' => some (zeroed 2 (whole c.second))
  | 'T' => some (clockText false c)
  | 'u' => some (toString (m.daysAfterMonday + 1)).toList
  | 'w' => some (toString m.daysAfterSunday).toList
  | 'U' => some (zeroed 2 ((m.daysInYear - m.daysAfterSunday + 7).tdiv 7))
  | 'V' => some (zeroed 2 (m.thursday.daysInYear.tdiv 7 + 1))
  | 'W' => some (zeroed 2 ((m.daysInYear - m.daysAfterMonday + 7).tdiv 7))
  | 'Y' => some (zeroed 4 d.year)
  | '%' => some ['%']
  | _ => none

/-- A moment in a format, unless a letter in it stands for nothing. -/
def written? (m : Moment) : List UInt8 → Option (List UInt8)
  | [] => some []
  | [b] => if b = 37 then none else some [b]
  | b :: c :: rest =>
    if b = 37 then do
      let part ← part? m (Char.ofNat c.toNat)
      return part.map (fun x => UInt8.ofNat x.toNat) ++ (← written? m rest)
    else (written? m (c :: rest)).map (b :: ·)

/-! ## The time between two moments -/

/-- The year and the month exchanged for others. -/
def inYearAndMonth (m : Moment) (year month : Int) : Moment :=
  Moment.located { m with instant := none, day := some ⟨year, month, m.theDay.day⟩ }

/-- How many steps by a month are made at most. -/
def mostSteps : Nat := 24

/-- Takes months off until a moment that is moved by them no longer lies beyond another one. -/
def stepBack (isLater : Bool) (stop : Int) : Nat → Moment → Int × Int → Moment × Int × Int
  | 0, m, counts => (m, counts)
  | n + 1, m, (years, months) =>
    if (if isLater then stop < m.place else m.place < stop) then
      let counts := if months = 0 then (years - 1, 11) else (years, months - 1)
      let d := m.theDay
      let d := if isLater then Day.mk d.year (d.month - 1) d.day else ⟨d.year, d.month + 1, d.day⟩
      let d := d.carried
      stepBack isLater stop n (inYearAndMonth m d.year d.month) counts
    else (m, years, months)

/-- The time from the second moment to the first one, in years, months, days and a clock. -/
def between (a b : Moment) : List Char :=
  let a := a.written
  let b := b.written
  let isLater := decide (b.place ≤ a.place)
  let direction : Int := if isLater then 1 else -1
  let years := direction * (a.theDay.year - b.theDay.year)
  let months := direction * (a.theDay.month - b.theDay.month)
  let moved := if years ≠ 0 then inYearAndMonth b a.theDay.year b.theDay.month else b
  let (years, months) := if months < 0 then (years - 1, months + 12) else (years, months)
  let moved :=
    if months ≠ 0 then inYearAndMonth moved moved.theDay.year a.theDay.month else moved
  let (moved, years, months) := stepBack isLater a.place mostSteps moved (years, months)
  let rest := direction * (a.place - moved.place)
  let m := (Moment.ofInstant (rest + Moment.startOf ⟨0, 1, 1⟩)).written
  (if isLater then '+' else '-') :: zeroed 4 years ++ '-' :: zeroed 2 months ++
    '-' :: zeroed 2 (m.theDay.day - 1) ++ ' ' :: zeroed 2 m.theClock.hour ++
    ':' :: zeroed 2 m.theClock.minute ++ ':' :: thousandths 6 m.theClock.second

/-! ## Functions -/

/-- A function of a moment, which some values stand for. -/
def ofMoment (name : String) (f : Moment → Datum) (c : Call) (values : List Datum) :
    Calculated Datum :=
  (Moment.ofValues (present name c.place) values).map fun m => m.elim .null f

/-- A function of a moment. -/
def dated (name : String) (f : Moment → Datum) : Routine :=
  .failing name 0 none fun c => ofMoment name f c c.values

/-- A function of the present time. -/
def current (name : String) (f : Moment → Datum) : Routine :=
  .volatile name 0 (some 0) fun _ => .ok (f (.ofInstant presentInstant))

/-- The day of a moment. -/
def date (m : Moment) : Datum := .ofCharacters (dateText m.dated.theDay)

/-- The clock of a moment. -/
def time (m : Moment) : Datum := .ofCharacters (clockText m.showsParts m.clocked.theClock)

/-- The day and the clock of a moment. -/
def dateAndTime (m : Moment) : Datum :=
  let m := m.written
  .ofCharacters (dateText m.theDay ++ ' ' :: clockText m.showsParts m.theClock)

/-- A moment as seconds since 1970 began. -/
def secondsOf (m : Moment) : Datum :=
  if m.showsParts then Calculation.realResult ⟨(finerSeconds m).toBits⟩ else .ofInt (seconds m)

/-- A moment in a format. -/
def formatted (c : Call) : Calculated Datum :=
  match c.values with
  | [] => .ok .null
  | v :: values =>
    match Calculation.textBytes? v with
    | none => .ok .null
    | some s =>
      ofMoment "strftime"
        (fun m => (written? m.written (Characters.untilZero s)).elim .null .text) c values

/-- The time between two moments. -/
def difference (c : Call) : Calculated Datum := do
  let name := "timediff"
  match ← Moment.ofValues (present name c.place) [c.argument 0] with
  | none => return .null
  | some a =>
    ofMoment name (fun b => .ofCharacters (between a b)) c [c.argument 1]

/-- The functions. -/
def routines : List Routine :=
  [dated "julianday" fun m => .real ⟨(days m).toBits⟩,
    dated "unixepoch" secondsOf,
    dated "date" date,
    dated "time" time,
    dated "datetime" dateAndTime,
    .failing "strftime" 0 none formatted,
    .failing "timediff" 2 (some 2) difference,
    current "current_date" date,
    current "current_time" time,
    current "current_timestamp" dateAndTime]

end PooledSql.Sqlite.Dates
