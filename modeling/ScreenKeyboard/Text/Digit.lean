/-!
Digits of numbers in bases up to sixteen.
-/

namespace ScreenKeyboard.Text

/-- The value of a digit, whose letters may be of either case, in a base. -/
def digit? (base : Nat) (c : Char) : Option Nat :=
  let value :=
    if '0' ≤ c ∧ c ≤ '9' then some (c.toNat - '0'.toNat)
    else if 'a' ≤ c ∧ c ≤ 'f' then some (c.toNat - 'a'.toNat + 10)
    else if 'A' ≤ c ∧ c ≤ 'F' then some (c.toNat - 'A'.toNat + 10)
    else none
  value.filter (· < base)

/-- The number with these digits, the most significant first. -/
def ofDigits (base : Nat) (digits : List Nat) : Nat :=
  digits.foldl (fun n d => base * n + d) 0

/-- The number that a text spells in a base, if it holds nothing but digits. -/
def number? (base : Nat) (text : List Char) : Option Nat :=
  (text.mapM (digit? base)).map (ofDigits base)

/-- The digit of a value below sixteen, in upper case. -/
def hexDigit (value : Nat) : Char :=
  if value < 10 then Char.ofNat ('0'.toNat + value) else Char.ofNat ('A'.toNat + (value - 10))

end ScreenKeyboard.Text
