import FortranStyle.Settings.Value

/-!
# Dates and points in time

A plain scalar of the form `2001-12-14` is a date, and one with a clock time behind
it a point in time, perhaps with the distance of its time zone.  No setting accepts
one, so only their texts matter.
-/

namespace FortranStyle.Yaml

/-- A number with zeros in front of it. -/
def padded (width n : Nat) : String :=
  let digits := Nat.toDigits 10 n
  String.ofList (List.replicate (width - digits.length) '0' ++ digits)

/-- The number that decimal digits write. -/
def decimalNumber (digits : List Char) : Nat :=
  digits.foldl (fun n c => n * 10 + (c.toNat - 0x30)) 0

/-- A date. -/
structure Date where
  year : Nat
  month : Nat
  day : Nat
deriving DecidableEq, Repr

/-- A time of day, to the microsecond. -/
structure Clock where
  hour : Nat
  minute : Nat
  second : Nat
  fraction : Nat
deriving DecidableEq, Repr

/-- A date, or a point in time with the minutes that its zone is ahead. -/
inductive Moment
  | date (day : Date)
  | time (day : Date) (clock : Clock) (zone : Option Int)
deriving DecidableEq, Repr

/-! ## Reading -/

/-- Take a number of at least `least` and at most `most` digits. -/
def takeNumber? (least most : Nat) (cs : List Char) : Option (Nat × List Char) :=
  let digits := (cs.take most).takeWhile Char.isDigit
  if digits.length < least then none
  else some (decimalNumber digits, cs.drop digits.length)

/-- Take a given character. -/
def takeChar? (c : Char) : List Char → Option (List Char)
  | d :: rest => if d = c then some rest else none
  | [] => none

/-- Take a date whose month and day have at least `least` digits. -/
def takeDate? (least : Nat) (cs : List Char) : Option (Date × List Char) := do
  let (year, cs) ← takeNumber? 4 4 cs
  let (month, cs) ← takeNumber? least 2 (← takeChar? '-' cs)
  let (day, cs) ← takeNumber? least 2 (← takeChar? '-' cs)
  return (⟨year, month, day⟩, cs)

/-- Take the fraction of a second, if there is one, as microseconds. -/
def takeFraction (cs : List Char) : Nat × List Char :=
  match cs with
  | '.' :: rest =>
      let digits := rest.takeWhile Char.isDigit
      (decimalNumber ((digits ++ List.replicate 6 '0').take 6), rest.drop digits.length)
  | _ => (0, cs)

/-- Read the time zone at the end, if there is one. -/
def zone? (cs : List Char) : Option (Option Int) :=
  match cs.dropWhile fun c => c == ' ' || c == '\t' with
  | [] => if cs.isEmpty then some none else none
  | ['Z'] => some (some 0)
  | sign :: rest => do
      guard (sign = '+' ∨ sign = '-')
      let (hours, rest) ← takeNumber? 1 2 rest
      let (minutes, rest) ← if rest.isEmpty then pure (0, rest) else
        takeNumber? 2 2 (← takeChar? ':' rest)
      guard rest.isEmpty
      let ahead : Int := hours * 60 + minutes
      return some (if sign = '-' then -ahead else ahead)

/-- Read a point in time. -/
def time? (cs : List Char) : Option Moment := do
  let (day, cs) ← takeDate? 1 cs
  let behind := cs.dropWhile fun c => c == ' ' || c == '\t'
  let cs ←
    if behind.length < cs.length then pure behind
    else if cs.head? = some 'T' ∨ cs.head? = some 't' then pure cs.tail
    else none
  let (hour, cs) ← takeNumber? 1 2 cs
  let (minute, cs) ← takeNumber? 2 2 (← takeChar? ':' cs)
  let (second, cs) ← takeNumber? 2 2 (← takeChar? ':' cs)
  let (fraction, cs) := takeFraction cs
  return .time day ⟨hour, minute, second, fraction⟩ (← zone? cs)

/-- Read a date or a point in time. -/
def Moment.ofText? (cs : List Char) : Option Moment :=
  match takeDate? 2 cs with
  | some (day, []) => some (.date day)
  | _ => time? cs

/-! ## The calendar -/

/-- The number of days of a month. -/
def daysIn (year month : Nat) : Nat :=
  if month = 2 then
    if year % 4 = 0 ∧ (year % 100 ≠ 0 ∨ year % 400 = 0) then 29 else 28
  else if month = 4 ∨ month = 6 ∨ month = 9 ∨ month = 11 then 30
  else 31

/-- Why there is no such date. -/
def Date.fault? (date : Date) : Option String :=
  if date.year = 0 then some "year 0 is out of range"
  else if date.month = 0 ∨ 12 < date.month then some "month must be in 1..12"
  else if date.day = 0 ∨ daysIn date.year date.month < date.day then
    some "day is out of range for month"
  else none

/-- Why there is no such time of day. -/
def Clock.fault? (clock : Clock) : Option String :=
  if 23 < clock.hour then some "hour must be in 0..23"
  else if 59 < clock.minute then some "minute must be in 0..59"
  else if 59 < clock.second then some "second must be in 0..59"
  else none

/-- How a span of minutes is shown: whole days, which may be negative, and the
seconds left. -/
def shownSpan (minutes : Int) : String :=
  let days := minutes.fdiv 1440
  let seconds := minutes.fmod 1440 * 60
  let parts :=
    (if days = 0 then [] else [s!"days={days}"]) ++
      (if seconds = 0 then [] else [s!"seconds={seconds}"])
  let listed := if parts.isEmpty then "0" else ", ".intercalate parts
  s!"datetime.timedelta({listed})"

/-- Why there is no such time zone: none is a day or more away. -/
def zoneFault? (minutes : Int) : Option String :=
  if minutes.natAbs < 1440 then none
  else some ("offset must be a timedelta strictly between -timedelta(hours=24) and " ++
    s!"timedelta(hours=24), not {shownSpan minutes}.")

/-- Why there is no such moment. -/
def Moment.fault? : Moment → Option String
  | .date day => day.fault?
  | .time day clock zone => zone.bind zoneFault? <|> day.fault? <|> clock.fault?

/-! ## Texts -/

/-- The text of a date. -/
def Date.plain (date : Date) : String :=
  s!"{padded 4 date.year}-{padded 2 date.month}-{padded 2 date.day}"

/-- The text of a time of day; a fraction of nothing is left out. -/
def Clock.plain (clock : Clock) : String :=
  let fraction := if clock.fraction = 0 then "" else s!".{padded 6 clock.fraction}"
  s!"{padded 2 clock.hour}:{padded 2 clock.minute}:{padded 2 clock.second}{fraction}"

/-- The text of a time zone. -/
def plainZone (minutes : Int) : String :=
  let ahead := minutes.natAbs
  let sign := if minutes < 0 then "-" else "+"
  s!"{sign}{padded 2 (ahead / 60)}:{padded 2 (ahead % 60)}"

/-- How a time zone is shown inside other values. -/
def shownZone (minutes : Int) : String :=
  if minutes = 0 then "datetime.timezone.utc" else s!"datetime.timezone({shownSpan minutes})"

/-- The value of a moment. -/
def Moment.value : Moment → Value
  | .date day =>
      .moment "datetime.date" day.plain s!"datetime.date({day.year}, {day.month}, {day.day})"
  | .time day clock zone =>
      let fields := [day.year, day.month, day.day, clock.hour, clock.minute]
      let finer :=
        if clock.fraction ≠ 0 then [clock.second, clock.fraction]
        else if clock.second ≠ 0 then [clock.second]
        else []
      let listed := (fields ++ finer).map toString
      let ending := zone.toList.map fun minutes => s!"tzinfo={shownZone minutes}"
      let shown := ", ".intercalate (listed ++ ending)
      let behind := (zone.map plainZone).getD ""
      .moment "datetime.datetime" s!"{day.plain} {clock.plain}{behind}"
        s!"datetime.datetime({shown})"

end FortranStyle.Yaml
