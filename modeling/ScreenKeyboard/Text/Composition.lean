import ScreenKeyboard.Text.CodeRun
import ScreenKeyboard.Text.CompositionTable

/-!
Composed text: every character and the marks on it are written with as few code points as the standard
compositions allow, marks in their canonical order (normalization form C of Unicode). The text is first
taken apart completely, the marks are put in order, and what can be composed is composed again.
-/

namespace ScreenKeyboard.Text

namespace Composition

def classes : List CodeRun :=
  CodeTable.runs classRuns

def decomposed : List (Nat × List Nat) :=
  CodeTable.expansions decompositions

def composed : List (Nat × List Nat) :=
  CodeTable.expansions compositions

/-- The combining class of a character: zero for those that stand on their own. -/
def classOf (c : Char) : Nat :=
  match classes.find? fun run => run.first ≤ c.toNat && c.toNat ≤ run.last with
  | some run => run.target
  | none => 0

/-- Where the tables begin: at the least character that has parts, the least that takes a mark, and the least
mark that it takes. -/
def leastComposed : Nat := 0xC0
def leastBase : Nat := 0x3C
def leastMark : Nat := 0x300

/-- The first leading consonant, vowel, trailing consonant and syllable of the Korean alphabet. The trailing
consonants begin after a code point that stands for none. -/
def leadBase : Nat := 0x1100
def vowelBase : Nat := 0x1161
def trailBase : Nat := 0x11A7
def syllableBase : Nat := 0xAC00

/-- The parts of a character that is taken apart completely. -/
def decompose (c : Char) : List Char :=
  let n := c.toNat
  if n < leastComposed then [c]
  else if syllableBase ≤ n ∧ n < syllableBase + 11172 then
    let s := n - syllableBase
    let trail := s % 28
    [Char.ofNat (leadBase + s / 588), Char.ofNat (vowelBase + s % 588 / 28)]
      ++ (if trail = 0 then [] else [Char.ofNat (trailBase + trail)])
  else
    match decomposed.lookup n with
    | some parts => parts.map Char.ofNat
    | none => [c]

/-- Puts a character before text in canonical order: a mark goes behind the marks of lower class. -/
def place (c : Char) : List Char → List Char
  | [] => [c]
  | d :: rest => if classOf d < classOf c ∧ classOf d ≠ 0 then d :: place c rest else c :: d :: rest

/-- The text with the marks on each character in canonical order. -/
def order (text : List Char) : List Char :=
  text.foldr place []

/-- The character that two characters compose to. -/
def pair? (a b : Char) : Option Char :=
  let m := a.toNat
  let n := b.toNat
  if m < leastBase ∨ n < leastMark then none
  else if leadBase ≤ m ∧ m < leadBase + 19 ∧ vowelBase ≤ n ∧ n < vowelBase + 21 then
    some (Char.ofNat (syllableBase + ((m - leadBase) * 21 + (n - vowelBase)) * 28))
  else if syllableBase ≤ m ∧ m < syllableBase + 11172 ∧ (m - syllableBase) % 28 = 0
      ∧ trailBase < n ∧ n < trailBase + 28 then
    some (Char.ofNat (m + (n - trailBase)))
  else (composed.find? (·.2 = [m, n])).map (Char.ofNat ·.1)

/-- Composes what follows a character with it: `marks` are the marks between the character and the rest
that did not compose, `last` is the class of the last of them, zero if there are none. -/
def composeOnto (base : Char) (marks : List Char) (last : Nat) : List Char → List Char
  | [] => base :: marks
  | c :: rest =>
    match if last = 0 ∨ last < classOf c then pair? base c else none with
    | some d => composeOnto d marks last rest
    | none =>
      if classOf c = 0 then base :: marks ++ composeOnto c [] 0 rest
      else composeOnto base (marks ++ [c]) (classOf c) rest

/-- Composes text in canonical order. -/
def compose : List Char → List Char
  | [] => []
  | c :: rest => if classOf c = 0 then composeOnto c [] 0 rest else c :: compose rest

end Composition

/-- The composed form of a text. -/
def composedForm (text : List Char) : List Char :=
  if text.all (·.toNat < 0x80) then text
  else Composition.compose (Composition.order (text.flatMap Composition.decompose))

end ScreenKeyboard.Text
