import RowReader.Text.Quoted

/-!
# Dates, times and durations

Calendar values keep their fields; a moment may carry an offset from universal time.  Each value
has three texts: the interchange form with a `T`, the form shown in a cell, and the literal form
shown inside nested cells.
-/

namespace RowReader
namespace Calendar

structure Date where
  year : Nat
  month : Nat
  day : Nat
  deriving DecidableEq, Repr

structure TimeOfDay where
  hour : Nat
  minute : Nat
  second : Nat
  microsecond : Nat
  deriving DecidableEq, Repr

/-- How a moment relates to universal time.  `universal` is the zone of that name and `offset 0`
the fixed offset zero; they describe the same moments and differ in their literal form only. -/
inductive Zone where
  | unzoned
  | offset (seconds : Int)
  | universal
  deriving DecidableEq, Repr

structure Moment where
  date : Date
  time : TimeOfDay
  zone : Zone
  deriving DecidableEq, Repr

/-- A length of time: whole days, of either sign, and a non-negative rest below one day. -/
structure Duration where
  days : Int
  seconds : Nat
  microseconds : Nat
  deriving DecidableEq, Repr

/-- A number with leading zeros up to a width. -/
def padded (width n : Nat) : String :=
  let digits := Nat.toDigits 10 n
  String.ofList (List.replicate (width - digits.length) '0' ++ digits)

/-! ## Counting days -/

def isLeap (year : Nat) : Bool :=
  year % 4 == 0 && (year % 100 != 0 || year % 400 == 0)

def daysInMonth (year month : Nat) : Nat :=
  if month == 2 then (if isLeap year then 29 else 28)
  else if month == 4 || month == 6 || month == 9 || month == 11 then 30
  else 31

def daysBeforeYear (year : Nat) : Nat :=
  let past := year - 1
  past * 365 + past / 4 - past / 100 + past / 400

def daysBeforeMonth (year month : Nat) : Nat :=
  (List.range (month - 1)).foldl (fun days m => days + daysInMonth year (m + 1)) 0

/-- The day's number, counting the first day of year one as one. -/
def Date.ordinal (d : Date) : Nat :=
  daysBeforeYear d.year + daysBeforeMonth d.year d.month + d.day

def TimeOfDay.secondOfDay (t : TimeOfDay) : Nat :=
  t.hour * 3600 + t.minute * 60 + t.second

def Zone.offset? : Zone → Option Int
  | .unzoned => none
  | .offset seconds => some seconds
  | .universal => some 0

/-- Seconds since the start of year one, as the clock shows it. -/
def Moment.clockSeconds (m : Moment) : Int :=
  Int.ofNat (m.date.ordinal * 86400 + m.time.secondOfDay)

/-- Seconds and microseconds in universal time, for a moment with a zone. -/
def Moment.instant? (m : Moment) : Option (Int × Nat) :=
  m.zone.offset?.map fun offset => (m.clockSeconds - offset, m.time.microsecond)

/-- Moments with a zone are compared in universal time, moments without one field by field, and
one of each kind always differ. -/
def Moment.same (a b : Moment) : Bool :=
  match a.instant?, b.instant? with
  | some x, some y => x == y
  | none, none => a.date == b.date && a.time == b.time
  | _, _ => false

/-- Whole microseconds. -/
def Duration.totalMicroseconds (d : Duration) : Int :=
  (d.days * 86400 + Int.ofNat d.seconds) * 1000000 + Int.ofNat d.microseconds

/-- The duration of a number of seconds, which may be negative. -/
def Duration.ofSeconds (seconds : Int) (microseconds : Nat) : Duration where
  days := seconds.fdiv 86400
  seconds := (seconds.fmod 86400).toNat
  microseconds := microseconds

/-! ## Interchange and cell texts -/

def Date.text (d : Date) : String :=
  padded 4 d.year ++ "-" ++ padded 2 d.month ++ "-" ++ padded 2 d.day

def TimeOfDay.text (t : TimeOfDay) : String :=
  padded 2 t.hour ++ ":" ++ padded 2 t.minute ++ ":" ++ padded 2 t.second
    ++ (if t.microsecond = 0 then "" else "." ++ padded 6 t.microsecond)

/-- An offset as hours and minutes, with seconds only when there are any. -/
def offsetText (seconds : Int) : String :=
  let magnitude := seconds.natAbs
  (if seconds < 0 then "-" else "+") ++ padded 2 (magnitude / 3600) ++ ":"
    ++ padded 2 (magnitude / 60 % 60)
    ++ (if magnitude % 60 = 0 then "" else ":" ++ padded 2 (magnitude % 60))

def Moment.textWith (separator : String) (m : Moment) : String :=
  m.date.text ++ separator ++ m.time.text
    ++ (match m.zone.offset? with | some seconds => offsetText seconds | none => "")

/-- Days in words, then the rest as a clock shows it. -/
def Duration.text (d : Duration) : String :=
  let plural := if d.days.natAbs = 1 then "" else "s"
  let days := if d.days = 0 then "" else toString d.days ++ " day" ++ plural ++ ", "
  days ++ toString (d.seconds / 3600) ++ ":" ++ padded 2 (d.seconds / 60 % 60) ++ ":"
    ++ padded 2 (d.seconds % 60)
    ++ (if d.microseconds = 0 then "" else "." ++ padded 6 d.microseconds)

/-! ## Literal texts -/

def arguments (values : List Nat) : String :=
  String.intercalate ", " (values.map toString)

/-- Seconds and microseconds are left out when nothing but zeros would follow. -/
def TimeOfDay.shownFields (t : TimeOfDay) : List Nat :=
  if t.microsecond ≠ 0 then [t.hour, t.minute, t.second, t.microsecond]
  else if t.second ≠ 0 then [t.hour, t.minute, t.second]
  else [t.hour, t.minute]

def Date.literal (d : Date) : String :=
  "datetime.date(" ++ arguments [d.year, d.month, d.day] ++ ")"

def TimeOfDay.literal (t : TimeOfDay) : String :=
  "datetime.time(" ++ arguments t.shownFields ++ ")"

def Duration.literal (d : Duration) : String :=
  let part := fun (name : String) (value : Int) =>
    if value = 0 then none else some (name ++ "=" ++ toString value)
  let parts := [part "days" d.days, part "seconds" d.seconds, part "microseconds" d.microseconds]
  match parts.filterMap id with
  | [] => "datetime.timedelta(0)"
  | shown => "datetime.timedelta(" ++ String.intercalate ", " shown ++ ")"

def Zone.literal : Zone → String
  | .unzoned => ""
  | .offset 0 => ", tzinfo=datetime.timezone.utc"
  | .offset seconds =>
    ", tzinfo=datetime.timezone(" ++ (Duration.ofSeconds seconds 0).literal ++ ")"
  | .universal => ", tzinfo=zoneinfo.ZoneInfo(key='UTC')"

def Moment.literal (m : Moment) : String :=
  "datetime.datetime(" ++ arguments ([m.date.year, m.date.month, m.date.day] ++ m.time.shownFields)
    ++ m.zone.literal ++ ")"

end Calendar
end RowReader
