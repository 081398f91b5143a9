import ScreenKeyboard.Text.Digit
import ScreenKeyboard.Toml.Value

/-!
Numbers of TOML. Integers are decimal with an optional sign, or hexadecimal, octal or binary without one,
and must fit in 64 bits; floats have a fraction, an exponent or both, and must not be too great for a double.
Single underscores may stand between digits.
-/

namespace ScreenKeyboard.Toml

open Text (digit? ofDigits)

namespace Number

/-- Reads the digits that follow a digit. An underscore must stand before a digit. -/
def moreDigits (base : Nat) : List Char → Option (List Nat × List Char)
  | [] => some ([], [])
  | '_' :: c :: rest =>
    match digit? base c with
    | some d => (moreDigits base rest).map fun (ds, after) => (d :: ds, after)
    | none => none
  | c :: rest =>
    if c = '_' then none
    else
      match digit? base c with
      | some d => (moreDigits base rest).map fun (ds, after) => (d :: ds, after)
      | none => some ([], c :: rest)

/-- Reads one digit or more. -/
def digits (base : Nat) : List Char → Option (List Nat × List Char)
  | [] => none
  | c :: rest => do
    let d ← digit? base c
    let (ds, after) ← moreDigits base rest
    pure (d :: ds, after)

/-- Reads the digits of a decimal number, which has no leading zero. -/
def wholeDigits : List Char → Option (List Nat × List Char)
  | '0' :: rest => some ([0], rest)
  | text => digits 10 text

def sign : List Char → Bool × List Char
  | '-' :: rest => (true, rest)
  | '+' :: rest => (false, rest)
  | text => (false, text)

/-- Whether a decimal is so great that the double nearest to it is infinite: at least the middle between
the greatest double and the power of two that follows it. -/
def overflows (digits : List Nat) (exponent : Int) : Bool :=
  let n := ofDigits 10 digits
  let bound := (Nat.pow 2 54 - 1) * Nat.pow 2 970
  if n = 0 then false
  else
    match exponent with
    | .ofNat e => 400 < e || bound ≤ n * Nat.pow 10 e
    | .negSucc e => e + 1 < digits.length && bound * Nat.pow 10 (e + 1) ≤ n

/-- Reads an exponent after its letter. -/
def exponent (text : List Char) : Option (Int × List Char) := do
  let (negative, text) := sign text
  let (ds, rest) ← digits 10 text
  let n : Int := ofDigits 10 ds
  pure (if negative then -n else n, rest)

def float? (negative : Bool) (ds : List Nat) (exponent : Int) (rest : List Char) : Option (Value × List Char) :=
  if !negative && overflows ds exponent then none
  else some (.float (.finite negative (ofDigits 10 ds) exponent), rest)

/-- Reads what may follow the whole part of a number. -/
def finish (negative : Bool) (whole : List Nat) : List Char → Option (Value × List Char)
  | '.' :: text => do
    let (fraction, rest) ← digits 10 text
    let ds := whole ++ fraction
    match rest with
    | c :: after =>
      if c = 'e' ∨ c = 'E' then
        let (e, rest) ← exponent after
        float? negative ds (e - fraction.length) rest
      else float? negative ds (-fraction.length) rest
    | [] => float? negative ds (-fraction.length) []
  | text =>
    match text with
    | c :: after =>
      if c = 'e' ∨ c = 'E' then do
        let (e, rest) ← exponent after
        float? negative whole e rest
      else integer text
    | [] => integer []
where
  integer (rest : List Char) : Option (Value × List Char) :=
    let n := ofDigits 10 whole
    if n ≤ (if negative then Nat.pow 2 63 else Nat.pow 2 63 - 1) then
      some (.integer (if negative then -(n : Int) else n), rest)
    else none

/-- Reads the digits of an integer that is not decimal. -/
def based (base : Nat) (text : List Char) : Option (Value × List Char) := do
  let (ds, rest) ← digits base text
  let n := ofDigits base ds
  if n < Nat.pow 2 63 then pure (.integer n, rest) else none

end Number

/-- Reads an integer or a float. -/
def number? (text : List Char) : Option (Value × List Char) :=
  match text with
  | '0' :: 'x' :: rest => Number.based 16 rest
  | '0' :: 'o' :: rest => Number.based 8 rest
  | '0' :: 'b' :: rest => Number.based 2 rest
  | _ =>
    let (negative, unsigned) := Number.sign text
    match unsigned with
    | 'i' :: 'n' :: 'f' :: rest => some (.float (.infinite negative), rest)
    | 'n' :: 'a' :: 'n' :: rest => some (.float .nan, rest)
    | _ => do
      let (whole, rest) ← Number.wholeDigits unsigned
      Number.finish negative whole rest

end ScreenKeyboard.Toml
