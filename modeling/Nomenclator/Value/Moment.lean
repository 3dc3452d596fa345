import Nomenclator.Text.Basic

/-!
# Moments

Dates and times as a settings file may hold them. Nothing computes with them; they are only shown,
in the everyday form or in the form of an expression.
-/

namespace Nomenclator

structure Date where
  year : Nat
  month : Nat
  day : Nat
deriving DecidableEq, Repr, Inhabited

structure TimeOfDay where
  hour : Nat
  minute : Nat
  second : Nat
  microsecond : Nat
deriving DecidableEq, Repr, Inhabited

/-- The offset of a moment from universal time is in minutes. -/
inductive Moment where
  | date (date : Date)
  | time (time : TimeOfDay)
  | dateTime (date : Date) (time : TimeOfDay) (offset : Option Int)
deriving DecidableEq, Repr, Inhabited

/-- Decimal with leading zeros. -/
def Text.padded (width n : Nat) : Text :=
  let digits := Text.ofNat n
  List.replicate (width - digits.length) (Rune.ofChar '0') ++ digits

def Date.isLeapYear (year : Nat) : Bool :=
  year % 4 == 0 && (year % 100 != 0 || year % 400 == 0)

def Date.daysIn (year month : Nat) : Nat :=
  if month = 2 then if isLeapYear year then 29 else 28
  else if month = 4 ∨ month = 6 ∨ month = 9 ∨ month = 11 then 30 else 31

def Date.isValid (d : Date) : Bool :=
  1 ≤ d.year && 1 ≤ d.month && d.month ≤ 12 && 1 ≤ d.day && d.day ≤ daysIn d.year d.month

def Date.shown (d : Date) : Text :=
  Text.concat [Text.padded 4 d.year, "-", Text.padded 2 d.month, "-", Text.padded 2 d.day]

def TimeOfDay.isValid (t : TimeOfDay) : Bool :=
  t.hour ≤ 23 && t.minute ≤ 59 && t.second ≤ 59

def TimeOfDay.shown (t : TimeOfDay) : Text :=
  Text.concat
    [Text.padded 2 t.hour, ":", Text.padded 2 t.minute, ":", Text.padded 2 t.second,
      if t.microsecond = 0 then [] else Rune.ofChar '.' :: Text.padded 6 t.microsecond]

/-- Hours, minutes, then seconds and microseconds as far as they are not zero. -/
def TimeOfDay.parts (t : TimeOfDay) : List Nat :=
  if t.microsecond ≠ 0 then [t.hour, t.minute, t.second, t.microsecond]
  else if t.second ≠ 0 then [t.hour, t.minute, t.second]
  else [t.hour, t.minute]

def offsetShown (minutes : Int) : Text :=
  Text.concat
    [if minutes < 0 then "-" else "+", Text.padded 2 (minutes.natAbs / 60), ":",
      Text.padded 2 (minutes.natAbs % 60)]

/-- An offset as an expression: whole days below zero, seconds above. -/
def offsetWritten (minutes : Int) : Text :=
  if minutes = 0 then "datetime.timezone.utc"
  else
    let seconds := (minutes * 60) % 86400
    let days := (minutes * 60) / 86400
    let seconds := Text.concat ["seconds=", Text.ofInt seconds]
    let inside :=
      if days = 0 then seconds
      else if (minutes * 60) % 86400 = 0 then Text.concat ["days=", Text.ofInt days]
      else Text.concat ["days=", Text.ofInt days, ", ", seconds]
    Text.concat ["datetime.timezone(datetime.timedelta(", inside, "))"]

namespace Moment

def shown : Moment → Text
  | .date d => d.shown
  | .time t => t.shown
  | .dateTime d t offset =>
    Text.concat [d.shown, " ", t.shown, (offset.map offsetShown).getD []]

def written : Moment → Text
  | .date d =>
    Text.concat ["datetime.date(", Text.join ", " ([d.year, d.month, d.day].map Text.ofNat), ")"]
  | .time t => Text.concat ["datetime.time(", Text.join ", " (t.parts.map Text.ofNat), ")"]
  | .dateTime d t offset =>
    Text.concat
      ["datetime.datetime(", Text.join ", " (([d.year, d.month, d.day] ++ t.parts).map Text.ofNat),
        (offset.map fun minutes => Text.concat [", tzinfo=", offsetWritten minutes]).getD [], ")"]

def typeName : Moment → Text
  | .date _ => "date"
  | .time _ => "time"
  | .dateTime .. => "datetime"

end Moment

end Nomenclator
