import ScreenKeyboard.Text.Digit
import ScreenKeyboard.Text.Pieces

/-!
Compact tables of code points. A set is a list of ranges; a mapping is a list of runs, each of which sends
every `step`-th code point of a range to a range of the same length, and of expansions, which send one
code point to several. Large tables are written as text in hexadecimal: `41-5A` for a range, `41-5A>61` or
`100-12E/2>101` for a run, `DF>73.73` for an expansion, with blanks between them.
-/

namespace ScreenKeyboard.Text

structure CodeRun where
  first : Nat
  last : Nat
  step : Nat
  target : Nat
  deriving DecidableEq, Repr

namespace CodeRun

/-- The image of a code point of the run. -/
def image? (run : CodeRun) (code : Nat) : Option Nat :=
  if run.first ≤ code ∧ code ≤ run.last ∧ (code - run.first) % run.step = 0 then
    some (run.target + (code - run.first))
  else none

/-- The image under the first run that holds the code point. -/
def lookup? (runs : List CodeRun) (code : Nat) : Option Nat :=
  runs.findSome? (image? · code)

end CodeRun

namespace CodeTable

def hex (digits : List Char) : Nat :=
  (number? 16 digits).getD 0

def range (word : List Char) : Nat × Nat :=
  match pieces '-' word with
  | [first, last] => (hex first, hex last)
  | _ => (hex word, hex word)

def run (word : List Char) : CodeRun :=
  match pieces '>' word with
  | [source, target] =>
    match pieces '/' source with
    | [codes, step] => ⟨(range codes).1, (range codes).2, hex step, hex target⟩
    | _ => ⟨(range source).1, (range source).2, 1, hex target⟩
  | _ => ⟨1, 0, 1, 0⟩

def expansion (word : List Char) : Nat × List Nat :=
  match pieces '>' word with
  | [source, targets] => (hex source, (pieces '.' targets).map hex)
  | _ => (hex word, [hex word])

/-- The entries of a table that is written on several lines. -/
def words (table : List String) : List (List Char) :=
  table.flatMap fun line => pieces ' ' line.toList

def ranges (table : List String) : List (Nat × Nat) :=
  (words table).map range

def runs (table : List String) : List CodeRun :=
  (words table).map run

def expansions (table : List String) : List (Nat × List Nat) :=
  (words table).map expansion

end CodeTable

/-- Whether a character lies in one of the ranges. -/
def inRanges (ranges : List (Nat × Nat)) (c : Char) : Bool :=
  ranges.any fun (first, last) => first ≤ c.toNat && c.toNat ≤ last

end ScreenKeyboard.Text
