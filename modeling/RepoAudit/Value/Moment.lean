/-! # Dates and times

Configuration text may hold a date, a time of day, or both with an offset from universal time.

* `Date`, `Clock`, `Moment` – the three kinds;
* `Date.ofNumbers?`, `Clock.ofNumbers?` – from numbers, if such a day or time exists;
* `Moment.display`, `Moment.listed` – the form in a sentence and the form inside a list.
-/

namespace RepoAudit

structure Date where
  year : Nat
  month : Nat
  day : Nat
  deriving Repr, DecidableEq, Inhabited

structure Clock where
  hour : Nat := 0
  minute : Nat := 0
  second : Nat := 0
  microsecond : Nat := 0
  deriving Repr, DecidableEq, Inhabited

/-- A date, a time, or both; an offset is counted in minutes. -/
inductive Moment where
  | date (d : Date)
  | time (t : Clock)
  | both (d : Date) (t : Clock) (offset : Option Int)
  deriving Repr, DecidableEq, Inhabited

def isLeapYear (year : Nat) : Bool :=
  year % 4 == 0 && (year % 100 != 0 || year % 400 == 0)

def daysOfMonth (year month : Nat) : Nat :=
  if month = 2 then (if isLeapYear year then 29 else 28)
  else if month = 4 ∨ month = 6 ∨ month = 9 ∨ month = 11 then 30
  else 31

/-- The day with these numbers, if there is one in the years 1 to 9999. -/
def Date.ofNumbers? (year month day : Int) : Option Date :=
  if 1 ≤ year ∧ year ≤ 9999 ∧ 1 ≤ month ∧ month ≤ 12 ∧ 1 ≤ day
      ∧ day ≤ daysOfMonth year.toNat month.toNat then
    some ⟨year.toNat, month.toNat, day.toNat⟩
  else none

def Clock.ofNumbers? (hour minute second microsecond : Int) : Option Clock :=
  if 0 ≤ hour ∧ hour < 24 ∧ 0 ≤ minute ∧ minute < 60 ∧ 0 ≤ second ∧ second < 60
      ∧ 0 ≤ microsecond ∧ microsecond < 1000000 then
    some ⟨hour.toNat, minute.toNat, second.toNat, microsecond.toNat⟩
  else none

def padded (width n : Nat) : String :=
  let ds := Nat.toDigits 10 n
  String.ofList (List.replicate (width - ds.length) '0' ++ ds)

/-- A day, largest part first. -/
def Date.display (d : Date) : String :=
  padded 4 d.year ++ "-" ++ padded 2 d.month ++ "-" ++ padded 2 d.day

/-- A time; a fraction of a second is written only if there is one. -/
def Clock.display (t : Clock) : String :=
  padded 2 t.hour ++ ":" ++ padded 2 t.minute ++ ":" ++ padded 2 t.second
    ++ if t.microsecond = 0 then "" else "." ++ padded 6 t.microsecond

def offsetText (minutes : Int) : String :=
  (if minutes < 0 then "-" else "+") ++ padded 2 (minutes.natAbs / 60) ++ ":"
    ++ padded 2 (minutes.natAbs % 60)

namespace Moment

/-- Whether a moment can be written: an offset stays below one day. -/
def writable : Moment → Bool
  | .both _ _ (some minutes) => minutes.natAbs < 1440
  | _ => true

def display : Moment → String
  | .date d => d.display
  | .time t => t.display
  | .both d t offset => d.display ++ " " ++ t.display ++ (offset.map offsetText).getD ""

/-- The numbers of a time: the second and its fraction only if they are not zero. -/
def clockNumbers (t : Clock) : List Nat :=
  if t.microsecond ≠ 0 then [t.hour, t.minute, t.second, t.microsecond]
  else if t.second ≠ 0 then [t.hour, t.minute, t.second]
  else [t.hour, t.minute]

def applied (name : String) (numbers : List Nat) : String :=
  name ++ "(" ++ ", ".intercalate (numbers.map toString) ++ ")"

/-- The form of a moment inside a list, which does not show the offset. -/
def listed : Moment → String
  | .date d => applied "datetime.date" [d.year, d.month, d.day]
  | .time t => applied "datetime.time" (clockNumbers t)
  | .both d t _ => applied "datetime.datetime" ([d.year, d.month, d.day] ++ clockNumbers t)

/-- Whether two moments are of one kind for a list: times of day are apart from the rest. -/
def sameKind : Moment → Moment → Bool
  | .time _, .time _ => true
  | .time _, _ | _, .time _ => false
  | _, _ => true

end Moment

end RepoAudit
