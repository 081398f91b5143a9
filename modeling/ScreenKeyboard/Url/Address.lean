import ScreenKeyboard.Text.Digit
import ScreenKeyboard.Text.Pieces

/-!
Numeric addresses of hosts. A name whose last part is a number is an IPv4 address, written with one to four
numbers of which the last fills all bytes that are left; an IPv6 address is eight groups of hexadecimal
digits, of which one run of zeros may be left out and the last two may be written as an IPv4 address.
-/

namespace ScreenKeyboard.Url

open Text

namespace Ipv4

/-- A part of an address: hexadecimal after `0x`, octal after `0`, else decimal. -/
def part? (text : List Char) : Option Nat :=
  match text with
  | [] => none
  | '0' :: 'x' :: digits | '0' :: 'X' :: digits => number? 16 digits
  | '0' :: c :: digits => number? 8 (c :: digits)
  | _ => number? 10 text

/-- The parts of a name, without an empty last one. -/
def parts (name : List Char) : List (List Char) :=
  let all := pieces '.' name
  if all.getLast? = some [] ∧ 1 < all.length then all.dropLast else all

/-- Whether a name stands for an address. -/
def endsInNumber (name : List Char) : Bool :=
  match (parts name).getLast? with
  | none => false
  | some last => (!last.isEmpty && last.all Char.isDigit) || (part? last).isSome

/-- The address that a name stands for, if it does. -/
def read? (name : List Char) : Option Nat := do
  let numbers ← (parts name).mapM part?
  let last ← numbers.getLast?
  let leading := numbers.dropLast
  if leading.length ≤ 3 ∧ leading.all (· ≤ 255) ∧ last < Nat.pow 256 (4 - leading.length) then
    pure (leading.foldl (fun n b => 256 * n + b) 0 * Nat.pow 256 (4 - leading.length) + last)
  else none

def write (address : Nat) : List Char :=
  join '.'
    ([address / 16777216 % 256, address / 65536 % 256, address / 256 % 256, address % 256].map
      (Nat.toDigits 10))

end Ipv4

namespace Ipv6

inductive Group
  /-- Zeros that were left out. -/
  | gap
  | value (n : Nat)
  deriving DecidableEq, Repr

/-- A number from 0 to 255 without leading zeros. -/
def byte? (text : List Char) : Option Nat :=
  match text with
  | [] => none
  | '0' :: _ :: _ => none
  | _ => (number? 10 text).filter (· ≤ 255)

/-- The last two groups, written as an IPv4 address. -/
def dotted? (text : List Char) : Option (List Group) := do
  match ← (pieces '.' text).mapM byte? with
  | [a, b, c, d] => pure [.value (256 * a + b), .value (256 * c + d)]
  | _ => none

/-- Reads at most `left` groups; zeros that are left out count as one. -/
def groups? : Nat → List Char → Option (List Group)
  | _, [] => some []
  | 0, _ => none
  | left + 1, ':' :: rest => (groups? left rest).map (.gap :: ·)
  | left + 1, text =>
    let digits := (text.take 4).takeWhile fun c => (digit? 16 c).isSome
    match text.drop digits.length with
    | [] => (number? 16 digits).map ([.value ·])
    | ':' :: rest =>
      if rest.isEmpty then none
      else do
        let n ← number? 16 digits
        let groups ← groups? left rest
        pure (.value n :: groups)
    | '.' :: _ => if digits.isEmpty ∨ left = 0 then none else dotted? text
    | _ => none

/-- The eight groups, with zeros filled in at the gap. -/
def fill? (groups : List Group) : Option (List Nat) :=
  let values := groups.filterMap fun
    | .gap => none
    | .value n => some n
  match groups.length - values.length with
  | 0 => if values.length = 8 then some values else none
  | 1 =>
    let before := groups.idxOf .gap
    some (values.take before ++ List.replicate (8 - values.length) 0 ++ values.drop before)
  | _ => none

def read? (text : List Char) : Option (List Nat) := do
  match text with
  | ':' :: ':' :: _ => fill? (← groups? 8 (text.drop 1))
  | ':' :: _ => none
  | _ => fill? (← groups? 8 text)

/-- The number of zeros at the start. -/
def zeros (groups : List Nat) : Nat :=
  (groups.takeWhile (· = 0)).length

/-- Where the longest run of zeros begins, the first of those of equal length, and how long it is. -/
def longestZeros : List Nat → Nat × Nat
  | [] => (0, 0)
  | n :: rest =>
    let (start, length) := longestZeros rest
    if length ≤ zeros (n :: rest) then (0, zeros (n :: rest)) else (start + 1, length)

def writeGroups (groups : List Nat) : List Char :=
  join ':' (groups.map (Nat.toDigits 16))

/-- The address in brackets; the longest run of at least two zeros is left out. -/
def write (groups : List Nat) : List Char :=
  let (start, length) := longestZeros groups
  let inner :=
    if length < 2 then writeGroups groups
    else writeGroups (groups.take start) ++ [':', ':'] ++ writeGroups (groups.drop (start + length))
  '[' :: inner ++ [']']

end Ipv6

end ScreenKeyboard.Url
