/-!
The text on a key and how caps lock changes it. A legend of one character has a caps form if the
character is an ASCII letter or one of a US keyboard's shift pairs. Letters are set to the case that
caps lock calls for, a paired character is exchanged for its partner whichever way caps lock moved.
-/

namespace ScreenKeyboard

/-- The punctuation keys of a US keyboard: what they type alone and with shift. -/
def shiftPairs : List (Char × Char) :=
  [('\x60', '~'), ('1', '!'), ('2', '@'), ('3', '#'), ('4', '$'), ('5', '%'), ('6', '^'), ('7', '&'),
    ('8', '*'), ('9', '('), ('0', ')'), ('-', '_'), ('=', '+'), ('[', '{'), (']', '}'), ('\\', '|'),
    (';', ':'), ('\'', '"'), (',', '<'), ('.', '>'), ('/', '?')]

namespace Shift

/-- What the key of `c` types with shift. -/
def shifted? (c : Char) : Option Char :=
  shiftPairs.findSome? fun (base, high) => if c = base then some high else none

/-- What the key that gives `c` with shift types alone. -/
def unshifted? (c : Char) : Option Char :=
  shiftPairs.findSome? fun (base, high) => if c = high then some base else none

/-- The other character on the key of `c`. -/
def partner? (c : Char) : Option Char :=
  shiftPairs.findSome? fun (base, high) =>
    if c = base then some high else if c = high then some base else none

end Shift

namespace Legend

def isLetter (c : Char) : Bool :=
  ('a' ≤ c && c ≤ 'z') || ('A' ≤ c && c ≤ 'Z')

/-- The ASCII letter in the case that caps lock calls for. -/
def letterCase (engaged : Bool) (c : Char) : Char :=
  if engaged then c.toUpper else c.toLower

/-- The caps form of a single character, where it has one. -/
def recaseChar? (engaged : Bool) (c : Char) : Option Char :=
  if isLetter c then some (letterCase engaged c) else Shift.partner? c

/-- The new text of a legend after caps lock became `engaged`, or nothing if the legend stays. -/
def recase? (engaged : Bool) (legend : String) : Option String :=
  match legend.toList with
  | [c] => (recaseChar? engaged c).map String.singleton
  | _ => none

/-- As `recase?`, for a legend that is a single grapheme and no other; `graphemes` cuts a text into graphemes. -/
def recaseGrapheme? (graphemes : String → List String) (engaged : Bool) (legend : String) : Option String :=
  match graphemes legend with
  | [only] => recase? engaged only
  | _ => none

end Legend

end ScreenKeyboard
