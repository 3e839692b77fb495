import Dismantle.Json.Reader
/-! Dates and points in time: how a text writes them, which of them exist, and their standard
text. -/
namespace Dismantle.Yaml

structure Date where
  year : Nat
  month : Nat
  day : Nat
  deriving DecidableEq, Repr

/-- The time of a day; `offset` is its distance from universal time in minutes, if that is known. -/
structure Clock where
  hour : Nat
  minute : Nat
  second : Nat
  micro : Nat
  offset : Option Int
  deriving DecidableEq, Repr

/-- What a text says; whether there is such a day or hour is another matter. `wide` tells that
month and day have two digits. -/
structure Moment where
  date : Date
  clock : Option Clock
  wide : Bool
  deriving DecidableEq, Repr

def isLeap (year : Nat) : Bool := year % 4 = 0 ∧ (year % 100 ≠ 0 ∨ year % 400 = 0)

def monthLength (year month : Nat) : Nat :=
  if month = 2 then (if isLeap year then 29 else 28)
  else if month ∈ [4, 6, 9, 11] then 30 else 31

def digitsOf (least most : Nat) (cs : List Char) : Option (List Char × List Char) :=
  let ds := (cs.take most).takeWhile Json.isDigit
  if least ≤ ds.length then some (ds, cs.drop ds.length) else none

def literal (c : Char) : List Char → Option (List Char)
  | x :: cs => if x = c then some cs else none
  | [] => none

def isGap (c : Char) : Bool := c = ' ' ∨ c = '\t'

/-- What separates a date from a time: a letter or blanks. -/
def separator : List Char → Option (List Char)
  | 'T' :: cs | 't' :: cs => some cs
  | c :: cs => if isGap c then some (cs.dropWhile isGap) else none
  | [] => none

/-- The digits behind a point count up to the sixth. -/
def microOf (ds : List Char) : Nat :=
  Json.natOf ((ds ++ List.replicate 6 '0').take 6)

/-- The distance from universal time, at the end of a text. -/
def offsetOf (cs : List Char) : Option (Option Int) := do
  match cs.dropWhile isGap with
  | [] => if cs.isEmpty then some none else none
  | ['Z'] => some (some 0)
  | sign :: rest =>
    if sign ≠ '-' ∧ sign ≠ '+' then none
    let (hours, rest) ← digitsOf 1 2 rest
    let minutes ← match rest with
      | [] => some ['0']
      | ':' :: rest => match digitsOf 2 2 rest with
        | some (ds, []) => some ds
        | _ => none
      | _ => none
    let n : Int := 60 * Json.natOf hours + Json.natOf minutes
    some (some (if sign = '-' then -n else n))

def clockOf (cs : List Char) : Option Clock := do
  let (hour, rest) ← digitsOf 1 2 cs
  let (minute, rest) ← digitsOf 2 2 (← literal ':' rest)
  let (second, rest) ← digitsOf 2 2 (← literal ':' rest)
  let (fraction, rest) := match rest with
    | '.' :: rest => (rest.takeWhile Json.isDigit, rest.dropWhile Json.isDigit)
    | rest => ([], rest)
  let offset ← offsetOf rest
  return ⟨Json.natOf hour, Json.natOf minute, Json.natOf second, microOf fraction, offset⟩

/-- A date, or a date and a time; one line break may follow. -/
def Moment.of? (cs : List Char) : Option Moment := do
  let cs := if cs.getLast? = some '\n' then cs.dropLast else cs
  let (year, rest) ← digitsOf 4 4 cs
  let (month, rest) ← digitsOf 1 2 (← literal '-' rest)
  let (day, rest) ← digitsOf 1 2 (← literal '-' rest)
  let date : Date := ⟨Json.natOf year, Json.natOf month, Json.natOf day⟩
  let wide := month.length = 2 ∧ day.length = 2
  if rest.isEmpty then return ⟨date, none, wide⟩
  return ⟨date, some (← clockOf (← separator rest)), wide⟩

/-- A day's length in a message about a span of time. -/
def spanText (minutes : Int) : String :=
  let days := minutes.fdiv 1440
  let seconds := 60 * minutes.fmod 1440
  "datetime.timedelta(days=" ++ toString days
    ++ (if seconds = 0 then "" else ", seconds=" ++ toString seconds) ++ ")"

def Date.check (d : Date) : Except String Unit := do
  if d.year = 0 then throw "year 0 is out of range"
  if d.month = 0 ∨ 12 < d.month then throw "month must be in 1..12"
  if d.day = 0 ∨ monthLength d.year d.month < d.day then throw "day is out of range for month"

def Clock.checkOffset (c : Clock) : Except String Unit := do
  if (c.offset.getD 0).natAbs ≥ 1440 then
    throw ("offset must be a timedelta strictly between -timedelta(hours=24) and "
      ++ "timedelta(hours=24), not " ++ spanText (c.offset.getD 0) ++ ".")

def Clock.check (c : Clock) : Except String Unit := do
  if 23 < c.hour then throw "hour must be in 0..23"
  if 59 < c.minute then throw "minute must be in 0..59"
  if 59 < c.second then throw "second must be in 0..59"

/-- The distance from universal time is looked at before the day, the day before the hour. -/
def Moment.check (m : Moment) : Except String Unit := do
  if let some c := m.clock then c.checkOffset
  m.date.check
  if let some c := m.clock then c.check

def padded (width n : Nat) : String :=
  let ds := Nat.toDigits 10 n
  .ofList (List.replicate (width - ds.length) '0' ++ ds)

def Date.text (d : Date) : String :=
  padded 4 d.year ++ "-" ++ padded 2 d.month ++ "-" ++ padded 2 d.day

def offsetText (minutes : Int) : String :=
  (if minutes < 0 then "-" else "+") ++ padded 2 (minutes.natAbs / 60) ++ ":"
    ++ padded 2 (minutes.natAbs % 60)

/-- Parts of a second are written with six digits if there are any. -/
def Clock.text (c : Clock) (universal : String) : String :=
  padded 2 c.hour ++ ":" ++ padded 2 c.minute ++ ":" ++ padded 2 c.second
    ++ (if c.micro = 0 then "" else "." ++ padded 6 c.micro)
    ++ match c.offset with
      | none => ""
      | some 0 => universal
      | some minutes => offsetText minutes

/-- Standard text; universal time itself is marked by a letter. -/
def Moment.text (m : Moment) : String :=
  match m.clock with
  | none => m.date.text
  | some c => m.date.text ++ "T" ++ c.text "Z"

def daysBefore (year : Nat) : Nat :=
  let y := year - 1
  365 * y + y / 4 - y / 100 + y / 400

def Date.days (d : Date) : Nat :=
  daysBefore d.year + (List.range (d.month - 1)).foldl (fun n m => n + monthLength d.year (m + 1)) 0 + d.day

/-- Microseconds since the first day, in universal time where the distance to it is known. -/
def Moment.instant (m : Moment) : Int :=
  match m.clock with
  | none => m.date.days
  | some c =>
    let minutes : Int := 1440 * m.date.days + 60 * c.hour + c.minute - c.offset.getD 0
    1000000 * (60 * minutes + c.second) + c.micro

/-- Dates equal dates, and times of known distance to universal time equal times of that kind. -/
def Moment.same (a b : Moment) : Bool :=
  a.clock.isSome = b.clock.isSome
    ∧ (a.clock.bind (·.offset)).isSome = (b.clock.bind (·.offset)).isSome
    ∧ a.instant = b.instant

end Dismantle.Yaml
