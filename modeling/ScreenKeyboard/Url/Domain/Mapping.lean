import ScreenKeyboard.Text.CodeRun
import ScreenKeyboard.Url.Domain.MappingTable

/-!
The mapping that every character of an international domain name goes through: it is refused, dropped, or
replaced by other characters or by itself.
-/

namespace ScreenKeyboard.Url.Domain

open Text

def refused : List (Nat × Nat) :=
  CodeTable.ranges refusedRanges

def ignored : List (Nat × Nat) :=
  CodeTable.ranges ignoredRanges

def mapped : List CodeRun :=
  CodeTable.runs mappedRuns

def expanded : List (Nat × List Nat) :=
  CodeTable.expansions mappedExpansions

/-- What a character becomes; nothing if no domain name may hold it. -/
def mapChar? (c : Char) : Option (List Char) :=
  if c.toNat < 0x80 then some [c.toLower]
  else if inRanges refused c then none
  else if inRanges ignored c then some []
  else
    match CodeRun.lookup? mapped c.toNat with
    | some code => some [Char.ofNat code]
    | none =>
      match expanded.lookup c.toNat with
      | some codes => some (codes.map Char.ofNat)
      | none => some [c]

/-- The mapped form of a domain name. -/
def map? (name : List Char) : Option (List Char) :=
  (name.mapM mapChar?).map List.flatten

end ScreenKeyboard.Url.Domain
