/-
Dates and times of TOML.

A moment is a date, a time of day, or a date with a time of day, and only the last may
say how far it is from universal time.  The seconds may be left out.  A moment is written
in one form: a capital `T` before the time, a capital `Z` for universal time itself, and
no zeros at the end of a fraction.
-/
import MediaLibrary.Text.Numeral

namespace MediaLibrary.Toml

/-- A day of the calendar. -/
structure Day where
  year : Nat
  month : Nat
  day : Nat
  deriving DecidableEq

/-- A time of day.  A fraction of a second is a number of nanoseconds. -/
structure Clock where
  hour : Nat
  minute : Nat
  second : Option Nat
  nanosecond : Option Nat
  deriving DecidableEq

/-- How far a time is from universal time, in minutes. -/
inductive Offset where
  | universal
  | minutes (m : Int)
  deriving DecidableEq

/-- A date, a time, or both. -/
inductive Moment where
  | day (d : Day)
  | clock (t : Clock)
  | both (d : Day) (t : Clock) (offset : Option Offset)
  deriving DecidableEq

/-! ### What there is on a calendar and on a clock -/

/-- The number of days of a month. -/
def daysOfMonth (year month : Nat) : Nat :=
  if month = 2 then
    if year % 4 = 0 ∧ (year % 100 ≠ 0 ∨ year % 400 = 0) then 29 else 28
  else if month = 4 ∨ month = 6 ∨ month = 9 ∨ month = 11 then 30
  else 31

/-- A day that the calendar has. -/
def Day.isValid (d : Day) : Bool :=
  1 ≤ d.month && d.month ≤ 12 && 1 ≤ d.day && d.day ≤ daysOfMonth d.year d.month

/-- A time that a clock shows; a minute may have a sixty-first second. -/
def Clock.isValid (t : Clock) : Bool :=
  t.hour ≤ 23 && t.minute ≤ 59 && t.second.getD 0 ≤ 60

/-! ### Reading -/

/-- A number in so many digits. -/
def numberOf? (width : Nat) (cs : List Char) : Option Nat :=
  if cs.length = width then Text.natural? cs else none

/-- A day, from its written form. -/
def Day.ofChars? : List Char → Option Day
  | [a, b, c, d, '-', e, f, '-', g, h] => do
    let day : Day := ⟨← numberOf? 4 [a, b, c, d], ← numberOf? 2 [e, f], ← numberOf? 2 [g, h]⟩
    if day.isValid then some day else none
  | _ => none

/-- The nanoseconds of a fraction of a second, from its digits.  Digits after the ninth
are left out. -/
def nanosecondsOf? (digits : List Char) : Option Nat :=
  let nine := digits.take 9
  (Text.natural? digits).map fun _ =>
    Text.digitsValue (nine ++ List.replicate (9 - nine.length) '0')

/-- What may follow hour and minute. -/
def secondOf? : List Char → Option (Option Nat × Option Nat)
  | [] => some (none, none)
  | [':', a, b] => do return (some (← numberOf? 2 [a, b]), none)
  | ':' :: a :: b :: '.' :: digits => do
    return (some (← numberOf? 2 [a, b]), some (← nanosecondsOf? digits))
  | _ => none

/-- A time, from its written form. -/
def Clock.ofChars? : List Char → Option Clock
  | a :: b :: ':' :: c :: d :: rest => do
    let (second, nanosecond) ← secondOf? rest
    let clock : Clock := ⟨← numberOf? 2 [a, b], ← numberOf? 2 [c, d], second, nanosecond⟩
    if clock.isValid then some clock else none
  | _ => none

/-- The hours and minutes of an offset. -/
def offsetMinutes? : List Char → Option Nat
  | [a, b, ':', c, d] => do
    let hours ← numberOf? 2 [a, b]
    let minutes ← numberOf? 2 [c, d]
    if hours ≤ 23 ∧ minutes ≤ 59 then some (60 * hours + minutes) else none
  | _ => none

/-- An offset, from its written form. -/
def Offset.ofChars? : List Char → Option Offset
  | ['Z'] | ['z'] => some .universal
  | '+' :: cs => (offsetMinutes? cs).map fun m => .minutes m
  | '-' :: cs => (offsetMinutes? cs).map fun m => .minutes (-(m : Int))
  | _ => none

/-- The start of an offset. -/
def startsOffset (c : Char) : Bool :=
  c = 'Z' || c = 'z' || c = '+' || c = '-'

/-- A moment, from its written form. -/
def Moment.ofChars? (cs : List Char) : Option Moment :=
  (Clock.ofChars? cs).map .clock <|> do
    let day ← Day.ofChars? (cs.take 10)
    match cs.drop 10 with
    | [] => return .day day
    | mark :: rest =>
      if mark ≠ 'T' ∧ mark ≠ 't' ∧ mark ≠ ' ' then none
      let clock ← Clock.ofChars? (rest.takeWhile (!startsOffset ·))
      match rest.dropWhile (!startsOffset ·) with
      | [] => return .both day clock none
      | offset => return .both day clock (some (← Offset.ofChars? offset))

/-! ### Writing -/

/-- A day, with four digits for the year and two for the month and the day. -/
def Day.text (d : Day) : String :=
  s!"{Text.padNat 4 d.year}-{Text.padNat 2 d.month}-{Text.padNat 2 d.day}"

/-- The digits of a fraction of a second: at least one, and no zeros behind the others. -/
def fractionDigits (nanosecond : Nat) : String :=
  match ((Text.padNat 9 nanosecond).toList.reverse.dropWhile (· = '0')).reverse with
  | [] => "0"
  | digits => String.ofList digits

/-- A time of day; seconds and their fraction only if there are any. -/
def Clock.text (t : Clock) : String :=
  Text.padNat 2 t.hour ++ ":" ++ Text.padNat 2 t.minute ++
    t.second.elim "" (fun second => ":" ++ Text.padNat 2 second) ++
    t.nanosecond.elim "" (fun nanosecond => "." ++ fractionDigits nanosecond)

/-- The distance from universal time. -/
def Offset.text : Offset → String
  | .universal => "Z"
  | .minutes m =>
    (if m < 0 then "-" else "+") ++
      Text.padNat 2 (m.natAbs / 60) ++ ":" ++ Text.padNat 2 (m.natAbs % 60)

/-- The written form of a moment. -/
def Moment.text : Moment → String
  | .day d => d.text
  | .clock t => t.text
  | .both d t offset => d.text ++ "T" ++ t.text ++ offset.elim "" Offset.text

example : (Moment.ofChars? "1979-05-27 07:32:00.500-07:00".toList).map Moment.text =
    some "1979-05-27T07:32:00.5-07:00" := by decide +kernel
example : Moment.ofChars? "07:32:00Z".toList = none ∧ Moment.ofChars? "1900-02-29".toList = none := by
  decide +kernel

end MediaLibrary.Toml
