import ScreenKeyboard.Text.CasingTable

/-!
Upper and lower case of single characters, by Unicode's full mappings without context or language: one
character may become several.
-/

namespace ScreenKeyboard.Text

namespace Casing

/-- The image of a character under the runs and expansions of one of the two mappings. -/
def map (runs : List CodeRun) (expansions : List (Nat × List Nat)) (c : Char) : List Char :=
  match CodeRun.lookup? runs c.toNat with
  | some code => [Char.ofNat code]
  | none =>
    match expansions.lookup c.toNat with
    | some codes => codes.map Char.ofNat
    | none => [c]

end Casing

def lower (c : Char) : List Char :=
  Casing.map Casing.lowerRuns Casing.lowerExpansions c

def upper (c : Char) : List Char :=
  Casing.map Casing.upperRuns Casing.upperExpansions c

end ScreenKeyboard.Text
