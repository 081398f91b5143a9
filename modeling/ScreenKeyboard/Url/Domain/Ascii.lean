import ScreenKeyboard.Text.Composition
import ScreenKeyboard.Text.Pieces
import ScreenKeyboard.Url.Domain.Label
import ScreenKeyboard.Url.Domain.Mapping
import ScreenKeyboard.Url.Domain.Punycode

/-!
The ASCII form of an international domain name (UTS #46). The name is mapped and composed, labels that
arrive encoded are decoded and must be what encoding produces, every label is checked, and labels with
other than ASCII characters are encoded.
-/

namespace ScreenKeyboard.Url.Domain

open Text

/-- ASCII characters that no host may hold. -/
def isForbidden (c : Char) : Bool :=
  c.toNat ≤ 0x20 || c = '\x7f' || "%#/:<>?@[\\]^|".toList.contains c

def isAscii (text : List Char) : Bool :=
  text.all (·.toNat < 0x80)

def encodedPrefix : List Char :=
  "xn--".toList

/-- Whether a decoded label could have been given as it is: mapping and composing leave it alone. -/
def isStable (label : List Char) : Bool :=
  label.all (fun c => mapChar? c = some [c]) && composedForm label = label

/-- The label as it is read: decoded, if it is marked as encoded. -/
def readLabel? (label : List Char) : Option (List Char) :=
  if encodedPrefix.isPrefixOf label then
    let code := label.drop encodedPrefix.length
    if isAscii label && code.length ≤ 2000 then
      match Punycode.decode? code with
      | some decoded =>
        if !isAscii decoded && isStable decoded then some decoded else none
      | none => none
    else none
  else some label

/-- Whether a label that was read may stand in a name. -/
def isAllowed (label : List Char) : Bool :=
  !label.any isForbidden
    && (isAscii label
      || (label.length ≤ 1000 && !Label.beginsWithMark label && Label.joinersFit [] label))

/-- Whether the labels of a name can be read in one direction each, if any of them is written from right
to left. -/
def directionsFit (labels : List (List Char)) : Bool :=
  labels.all isAscii || !labels.any (·.any Label.needsDirection) || labels.all Label.oneDirection

def writeLabel (label : List Char) : List Char :=
  if isAscii label then label else encodedPrefix ++ Punycode.encode label

/-- The ASCII form of a name, if it is an international domain name. -/
def toAscii? (name : List Char) : Option (List Char) := do
  let labels ← (pieces '.' (composedForm (← map? name))).mapM readLabel?
  if labels.all isAllowed && directionsFit labels then pure (join '.' (labels.map writeLabel)) else none

end ScreenKeyboard.Url.Domain
