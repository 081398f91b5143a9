/-!
Values of a TOML document. A table remembers how it came about, because that decides whether a later line
may still add to it: a table in braces is closed, one with a header of its own takes no dotted keys, one
that exists only as part of a longer header may still get its own, and one made by dotted keys grows by
dotted keys alone.
-/

namespace ScreenKeyboard.Toml

structure Date where
  year : Nat
  month : Nat
  day : Nat
  deriving DecidableEq, Repr

structure Time where
  hour : Nat
  minute : Nat
  second : Nat
  /-- The digits after the seconds' point. -/
  fraction : List Nat
  deriving DecidableEq, Repr

/-- A date, a time of day, or both, then perhaps with an offset from universal time in minutes. -/
structure Moment where
  date : Option Date
  time : Option Time
  offset : Option Int
  deriving DecidableEq, Repr

inductive Decimal
  /-- The digits, read as a whole number, times a power of ten. -/
  | finite (negative : Bool) (digits : Nat) (exponent : Int)
  | infinite (negative : Bool)
  | nan
  deriving DecidableEq, Repr

inductive TableForm
  | braced
  | headed
  | implied
  | dotted
  deriving DecidableEq, Repr

inductive Value
  | string (text : String)
  | integer (n : Int)
  | float (x : Decimal)
  | boolean (b : Bool)
  | moment (m : Moment)
  | array (elements : List Value)
  | table (form : TableForm) (entries : List (String × Value))
  /-- An array whose elements are the tables under repeated headers in double brackets. -/
  | tables (elements : List (List (String × Value)))
  deriving Inhabited

/-- The entries of a table, in the order in which their keys first came up. -/
abbrev Entries := List (String × Value)

namespace Entries

/-- Gives `key` a value, in place of the one it has or at the end. -/
def set (key : String) (value : Value) : Entries → Entries
  | [] => [(key, value)]
  | (k, v) :: rest => if k = key then (k, value) :: rest else (k, v) :: set key value rest

end Entries

end ScreenKeyboard.Toml
