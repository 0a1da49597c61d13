import CombatContent.Decimal.Numeral
import CombatContent.Toml.Lexis

/-!
# Dates and times of TOML

A date-time is a date, a time of day, or both; with both, the offset from universal time may be
given. The day must exist in its month. A fraction of a second is cut off after nine places.

## Main definitions

* `DateTime`: the values.
* `DateTime.text`: their normal form.
* `DateTime.reader`: reads one in any written form.
-/

namespace CombatContent.Toml

open Scan (fail expect)

/-- A day of the calendar. -/
structure Date where
  year : Nat
  month : Nat
  day : Nat
  deriving DecidableEq, Repr

/-- A time of day. -/
structure Time where
  hour : Nat
  minute : Nat
  second : Nat
  nanosecond : Nat
  deriving DecidableEq, Repr

/-- An offset from universal time. -/
inductive Offset where
  | universal
  | minutes (count : Int)
  deriving DecidableEq, Repr

/-- A date, a time, or both. -/
inductive DateTime where
  | date (date : Date)
  | time (time : Time)
  | both (date : Date) (time : Time) (offset : Option Offset)
  deriving DecidableEq, Repr

/-- The days of a month. -/
def daysInMonth (year month : Nat) : Nat :=
  if month = 2 then
    if year % 4 = 0 ∧ (year % 100 ≠ 0 ∨ year % 400 = 0) then 29 else 28
  else if month ∈ [4, 6, 9, 11] then 30
  else 31

/-- The digits of a number, filled up with zeros on the left. -/
def padded (width n : Nat) : String :=
  let digits := Nat.toDigits 10 n
  String.ofList (List.replicate (width - digits.length) '0' ++ digits)

/-- The normal form of a date. -/
def Date.text (d : Date) : String :=
  padded 4 d.year ++ "-" ++ padded 2 d.month ++ "-" ++ padded 2 d.day

/-- The normal form of a fraction of a second: nothing for none, and no zeros at the end. -/
def fractionText (nanosecond : Nat) : String :=
  if nanosecond = 0 then ""
  else "." ++ String.ofList
    (((padded 9 nanosecond).toList.reverse.dropWhile (· == '0')).reverse)

/-- The normal form of a time. -/
def Time.text (t : Time) : String :=
  padded 2 t.hour ++ ":" ++ padded 2 t.minute ++ ":" ++ padded 2 t.second ++
    fractionText t.nanosecond

/-- The normal form of an offset. -/
def Offset.text : Offset → String
  | .universal => "Z"
  | .minutes count =>
    (if count < 0 then "-" else "+") ++ padded 2 (count.natAbs / 60) ++ ":" ++
      padded 2 (count.natAbs % 60)

/-- The normal form of a date-time. -/
def DateTime.text : DateTime → String
  | .date d => d.text
  | .time t => t.text
  | .both d t offset => d.text ++ "T" ++ t.text ++ ((offset.map Offset.text).getD "")

/-- Reads a number of so many digits that lies in a range. -/
def boundedNumber (count least greatest : Nat) : Reader Nat := do
  let digits := (← get).take count
  let n := Decimal.digitsValue digits
  if digits.length = count ∧ digits.all Char.isDigit ∧ least ≤ n ∧ n ≤ greatest then
    modify (List.drop count)
    return n
  else fail

/-- Reads a date. -/
def date : Reader Date := do
  let year ← boundedNumber 4 0 9999
  expect "-"
  let month ← boundedNumber 2 1 12
  expect "-"
  let day ← boundedNumber 2 1 31
  if day ≤ daysInMonth year month then return ⟨year, month, day⟩ else fail

/-- Reads a fraction of a second, if there is one, in billionths. -/
def fraction : Reader Nat := do
  let digits ← Scan.optional (do
    expect "."
    let digits ← Scan.takeWhile Char.isDigit
    if digits.isEmpty then fail
    return digits : Reader (List Char))
  return Decimal.digitsValue (((digits.getD []).take 9).rightpad 9 '0')

/-- Reads a time of day. -/
def time : Reader Time := do
  let hour ← boundedNumber 2 0 23
  expect ":"
  let minute ← boundedNumber 2 0 59
  expect ":"
  let second ← boundedNumber 2 0 60
  return ⟨hour, minute, second, ← fraction⟩

/-- Reads an offset. -/
def offset : Reader Offset := do
  match ← Scan.next? with
  | some 'Z' => return .universal
  | some 'z' => return .universal
  | some sign =>
    if sign != '+' && sign != '-' then fail
    let hour ← boundedNumber 2 0 23
    expect ":"
    let minute ← boundedNumber 2 0 59
    let count : Int := 60 * hour + minute
    return .minutes (if sign = '-' then -count else count)
  | none => fail

/-- Reads the mark between a date and a time, and the time. -/
def timeOfDate : Reader Time := do
  match ← Scan.next? with
  | some c => if c == 'T' || c == 't' || c == ' ' then time else fail
  | none => fail

/-- Reads a date-time. A blank after a date parts it from a time only if a time follows. -/
def dateTime : Reader DateTime := do
  match ← Scan.optional date with
  | some d =>
    match ← Scan.optional timeOfDate with
    | some t => return .both d t (← Scan.optional offset)
    | none => return .date d
  | none => return .time (← time)

end CombatContent.Toml
