import ScreenKeyboard.Text.CodeRun
import ScreenKeyboard.Url.Domain.LetterTable

/-!
What a label of an international domain name must satisfy apart from the mapping: it does not begin with a
combining mark, joiners stand only where they change how letters are written, and in names with letters
written from right to left every label can be read in one direction.
-/

namespace ScreenKeyboard.Url.Domain

open Text

namespace Label

def marks : List (Nat × Nat) := CodeTable.ranges markRanges
def viramas : List (Nat × Nat) := CodeTable.ranges viramaRanges
def joinsLeft : List (Nat × Nat) := CodeTable.ranges joinsLeftRanges
def joinsRight : List (Nat × Nat) := CodeTable.ranges joinsRightRanges
def joinsBoth : List (Nat × Nat) := CodeTable.ranges joinsBothRanges
def joinsThrough : List (Nat × Nat) := CodeTable.ranges joinsThroughRanges
def rights : List (Nat × Nat) := CodeTable.ranges rightRanges
def arabicNumbers : List (Nat × Nat) := CodeTable.ranges arabicNumberRanges
def europeanNumbers : List (Nat × Nat) := CodeTable.ranges europeanNumberRanges
def neutrals : List (Nat × Nat) := CodeTable.ranges neutralRanges
def nonspacing : List (Nat × Nat) := CodeTable.ranges nonspacingRanges

def beginsWithMark : List Char → Bool
  | [] => false
  | c :: _ => inRanges marks c

/-- Whether a letter that joins to the following one comes first in `before`, read backwards. -/
def joinsForward (before : List Char) : Bool :=
  match before.dropWhile (inRanges joinsThrough) with
  | [] => false
  | c :: _ => inRanges joinsLeft c || inRanges joinsBoth c

/-- Whether a letter that joins to the preceding one comes first in `after`. -/
def joinsBackward (after : List Char) : Bool :=
  match after.dropWhile (inRanges joinsThrough) with
  | [] => false
  | c :: _ => inRanges joinsRight c || inRanges joinsBoth c

/-- Whether every joiner is in its place; `before` is what precedes, read backwards. A joiner follows a
virama; a non-joiner may also stand between two letters that would join. -/
def joinersFit (before : List Char) : List Char → Bool
  | [] => true
  | c :: rest =>
    let afterVirama := (before.head?.map (inRanges viramas)).getD false
    let fits :=
      if c = '\u200D' then afterVirama
      else if c = '\u200C' then afterVirama || (joinsForward before && joinsBackward rest)
      else true
    fits && joinersFit (c :: before) rest

/-- The direction class of a character. -/
inductive Bidi
  | left
  | right
  | arabicNumber
  | europeanNumber
  | neutral
  | nonspacing
  deriving DecidableEq, Repr

def bidi (c : Char) : Bidi :=
  if inRanges rights c then .right
  else if inRanges arabicNumbers c then .arabicNumber
  else if inRanges europeanNumbers c then .europeanNumber
  else if inRanges neutrals c then .neutral
  else if inRanges nonspacing c then .nonspacing
  else .left

/-- Whether a name with this character needs the direction rule. -/
def needsDirection (c : Char) : Bool :=
  bidi c = .right || bidi c = .arabicNumber

/-- Whether a label can be read in one direction: the one that its first letter sets. -/
def oneDirection (label : List Char) : Bool :=
  let classes := label.map bidi
  let last := (classes.reverse.dropWhile (· = .nonspacing)).head?
  match classes.head? with
  | none => true
  | some .right =>
    classes.all (· ≠ .left)
      && (last = some .right || last = some .europeanNumber || last = some .arabicNumber)
      && !(classes.contains .europeanNumber && classes.contains .arabicNumber)
  | some .left =>
    classes.all (fun b => b ≠ .right && b ≠ .arabicNumber)
      && (last = some .left || last = some .europeanNumber)
  | some _ => false

end Label

end ScreenKeyboard.Url.Domain
