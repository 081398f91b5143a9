import ScreenKeyboard.Text.Digit
import ScreenKeyboard.Toml.Value

/-!
Dates and times of TOML. The parts have a fixed number of digits and must name a day of the calendar and a
time of day, a leap second included.
-/

namespace ScreenKeyboard.Toml

open Text (digit? ofDigits)

namespace Moment

/-- Reads a number of exactly `count` digits. -/
def fixed (count : Nat) (text : List Char) : Option (Nat × List Char) := do
  let ds ← (text.take count).mapM (digit? 10)
  if ds.length = count then pure (ofDigits 10 ds, text.drop count) else none

def expect (c : Char) : List Char → Option (List Char)
  | [] => none
  | d :: rest => if d = c then some rest else none

def daysIn (year month : Nat) : Nat :=
  if month = 2 then
    if year % 4 = 0 ∧ (year % 100 ≠ 0 ∨ year % 400 = 0) then 29 else 28
  else if month = 4 ∨ month = 6 ∨ month = 9 ∨ month = 11 then 30
  else 31

def readDate (text : List Char) : Option (Date × List Char) := do
  let (year, rest) ← fixed 4 text
  let (month, rest) ← fixed 2 (← expect '-' rest)
  let (day, rest) ← fixed 2 (← expect '-' rest)
  if 1 ≤ month ∧ month ≤ 12 ∧ 1 ≤ day ∧ day ≤ daysIn year month then pure (⟨year, month, day⟩, rest) else none

/-- Reads hours and minutes. -/
def clock (text : List Char) : Option (Nat × Nat × List Char) := do
  let (hour, rest) ← fixed 2 text
  let (minute, rest) ← fixed 2 (← expect ':' rest)
  if hour ≤ 23 ∧ minute ≤ 59 then pure (hour, minute, rest) else none

/-- Reads a time of day with seconds; digits may follow the seconds after a point. -/
def readTime (text : List Char) : Option (Time × List Char) := do
  let (hour, minute, rest) ← clock text
  let (second, rest) ← fixed 2 (← expect ':' rest)
  if second ≤ 60 then
    match rest with
    | '.' :: after =>
      let digits := after.takeWhile Char.isDigit
      if digits.isEmpty then pure (⟨hour, minute, second, []⟩, rest)
      else pure (⟨hour, minute, second, digits.filterMap (digit? 10)⟩, after.drop digits.length)
    | _ => pure (⟨hour, minute, second, []⟩, rest)
  else none

/-- Reads an offset from universal time, if one stands here. -/
def readOffset (text : List Char) : Option Int × List Char :=
  match text with
  | [] => (none, text)
  | c :: after =>
    if c = 'Z' ∨ c = 'z' then (some 0, after)
    else if c = '+' ∨ c = '-' then
      match clock after with
      | some (hour, minute, rest) =>
        let minutes : Int := hour * 60 + minute
        (some (if c = '-' then -minutes else minutes), rest)
      | none => (none, text)
    else (none, text)

/-- Reads a time and perhaps an offset after a date. -/
def afterDate (date : Date) (text : List Char) : Moment × List Char :=
  match text with
  | [] => (⟨some date, none, none⟩, text)
  | c :: after =>
    if c = 'T' ∨ c = 't' ∨ c = ' ' then
      match readTime after with
      | some (time, rest) =>
        let (offset, rest) := readOffset rest
        (⟨some date, some time, offset⟩, rest)
      | none => (⟨some date, none, none⟩, text)
    else (⟨some date, none, none⟩, text)

end Moment

/-- Reads a date, a time of day, or a date and a time. -/
def moment? (text : List Char) : Option (Moment × List Char) :=
  match Moment.readDate text with
  | some (date, rest) => some (Moment.afterDate date rest)
  | none => (Moment.readTime text).map fun (time, rest) => (⟨none, some time, none⟩, rest)

end ScreenKeyboard.Toml
