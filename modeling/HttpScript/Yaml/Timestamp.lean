import HttpScript.Text.Literal
import HttpScript.Yaml.Implicit

/-!
# Days and times

Days of the proleptic Gregorian calendar from the year 1 on, and times of day in microseconds with
or without a distance from universal time.
-/
namespace HttpScript.Yaml

structure Day where
  year : Nat
  month : Nat
  day : Nat
  deriving Repr, DecidableEq

structure Moment where
  day : Day
  hour : Nat
  minute : Nat
  second : Nat
  microsecond : Nat
  /-- The minutes by which local time is ahead of universal time. -/
  ahead : Option Int
  deriving Repr, DecidableEq

/-- A day or a time as it is written down, whether it exists or not. -/
inductive Timestamp where
  | day (d : Day)
  | moment (m : Moment)
  deriving Repr, DecidableEq

/-- Why a day or a time does not exist. -/
inductive TimestampFault where
  | year (n : Nat)
  | month
  | day
  | hour
  | minute
  | second
  | offset (minutes : Int)
  deriving Repr, DecidableEq

/-! ## Writing -/

def padded (width n : Nat) : String :=
  let digits := Nat.toDigits 10 n
  .ofList (Decimal.zeros (width - digits.length) ++ digits)

/-- A span of minutes as a literal: whole days, and the seconds left over. -/
def spanLiteral (minutes : Int) : String :=
  let days := minutes / 1440
  let seconds := minutes % 1440 * 60
  let parts := (if days == 0 then [] else [s!"days={days}"]) ++
    (if seconds == 0 then [] else [s!"seconds={seconds}"])
  "datetime.timedelta(" ++ (if parts.isEmpty then "0" else ", ".intercalate parts) ++ ")"

def TimestampFault.message : TimestampFault → String
  | .year n => s!"year {n} is out of range"
  | .month => "month must be in 1..12"
  | .day => "day is out of range for month"
  | .hour => "hour must be in 0..23"
  | .minute => "minute must be in 0..59"
  | .second => "second must be in 0..59"
  | .offset minutes =>
    "offset must be a timedelta strictly between -timedelta(hours=24) and timedelta(hours=24), " ++
      "not " ++ spanLiteral minutes ++ "."

def Day.display (d : Day) : String := s!"{padded 4 d.year}-{padded 2 d.month}-{padded 2 d.day}"

def Day.literal (d : Day) : String := s!"datetime.date({d.year}, {d.month}, {d.day})"

/-- The distance from universal time after a time. -/
def aheadText (minutes : Int) : String :=
  let n := minutes.natAbs
  (if minutes < 0 then "-" else "+") ++ padded 2 (n / 60) ++ ":" ++ padded 2 (n % 60)

def Moment.display (m : Moment) : String :=
  m.day.display ++ " " ++ padded 2 m.hour ++ ":" ++ padded 2 m.minute ++ ":" ++ padded 2 m.second ++
    (if m.microsecond == 0 then "" else "." ++ padded 6 m.microsecond) ++
    (m.ahead.map aheadText).getD ""

def zoneLiteral (minutes : Int) : String :=
  if minutes == 0 then "datetime.timezone.utc"
  else "datetime.timezone(" ++ spanLiteral minutes ++ ")"

/-- Seconds and microseconds are left out at the end if they are zero. -/
def Moment.literal (m : Moment) : String :=
  let numbers := [m.day.year, m.day.month, m.day.day, m.hour, m.minute] ++
    (if m.microsecond != 0 then [m.second, m.microsecond]
    else if m.second != 0 then [m.second] else [])
  let zone := match m.ahead with
    | some minutes => ", tzinfo=" ++ zoneLiteral minutes
    | none => ""
  "datetime.datetime(" ++ ", ".intercalate (numbers.map toString) ++ zone ++ ")"

/-! ## Checking -/

def isLeapYear (y : Nat) : Bool := y % 4 == 0 && (y % 100 != 0 || y % 400 == 0)

def daysInMonth (year month : Nat) : Nat :=
  if month == 2 then if isLeapYear year then 29 else 28
  else if month == 4 || month == 6 || month == 9 || month == 11 then 30
  else 31

def Day.fault? (d : Day) : Option TimestampFault :=
  if d.year == 0 then some (.year d.year)
  else if d.month == 0 || 12 < d.month then some .month
  else if d.day == 0 || daysInMonth d.year d.month < d.day then some .day
  else none

/-- The distance from universal time is looked at first, then the day, then the time. -/
def Moment.fault? (m : Moment) : Option TimestampFault :=
  if m.ahead.any fun minutes => 1440 ≤ minutes.natAbs then m.ahead.map .offset
  else match m.day.fault? with
    | some fault => some fault
    | none =>
      if 24 ≤ m.hour then some .hour
      else if 60 ≤ m.minute then some .minute
      else if 60 ≤ m.second then some .second
      else none

def Timestamp.fault? : Timestamp → Option TimestampFault
  | .day d => d.fault?
  | .moment m => m.fault?

/-! ## Reading -/

namespace Timestamp

/-- A number of `least` to `most` digits. -/
def number? (least most : Nat) (s : List Char) : Option (Nat × List Char) :=
  let digits := (s.take most).takeWhile Char.isDigit
  if digits.length < least then none
  else some (digits.foldl (fun n c => 10 * n + (c.toNat - 48)) 0, s.drop digits.length)

def fraction (s : List Char) : Nat × List Char :=
  match s with
  | '.' :: s =>
    let digits := (s.takeWhile Char.isDigit).take 6
    ((digits ++ Decimal.zeros (6 - digits.length)).foldl (fun n c => 10 * n + (c.toNat - 48)) 0,
      s.dropWhile Char.isDigit)
  | s => (0, s)

/-- The distance from universal time, if one is written. -/
def zone? (s : List Char) : Option (Option Int × List Char) :=
  match s.dropWhile Implicit.isTab with
  | 'Z' :: rest => some (some 0, rest)
  | c :: rest =>
    if Implicit.isSign c then do
      let (hours, rest) ← number? 1 2 rest
      let (minutes, rest) := match rest with
        | ':' :: after => (number? 2 2 after).getD (0, rest)
        | _ => (0, rest)
      let n : Int := (60 * hours + minutes : Nat)
      return (some (if c == '-' then -n else n), rest)
    else some (none, s)
  | [] => some (none, s)

def isEnd (s : List Char) : Bool := s.isEmpty || s == ['\n']

/-- The day or the time that a text is. -/
def ofText? (s : List Char) : Option Timestamp := do
  let (year, s) ← number? 4 4 s
  let (month, s) ← number? 1 2 (← Implicit.char '-' s)
  let (dayNumber, s) ← number? 1 2 (← Implicit.char '-' s)
  let d : Day := ⟨year, month, dayNumber⟩
  if isEnd s then return .day d
  let (hour, s) ← number? 1 2 (← Implicit.timeMark s)
  let (minute, s) ← number? 2 2 (← Implicit.char ':' s)
  let (second, s) ← number? 2 2 (← Implicit.char ':' s)
  let (microsecond, s) := fraction s
  let (ahead, s) ← zone? s
  if isEnd s then return .moment ⟨d, hour, minute, second, microsecond, ahead⟩
  else none

end Timestamp

end HttpScript.Yaml
