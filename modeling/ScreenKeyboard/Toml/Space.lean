/-!
What may stand between the tokens of a TOML document: blanks, comments and line ends. Documents are read
with every line end as a single newline (`unifyNewlines`), so that a carriage return that remains is an
error wherever it stands.
-/

namespace ScreenKeyboard.Toml

/-- Writes each pair of carriage return and newline as a newline. -/
def unifyNewlines : List Char → List Char
  | [] => []
  | '\r' :: '\n' :: rest => '\n' :: unifyNewlines rest
  | c :: rest => c :: unifyNewlines rest

def isBlank (c : Char) : Bool :=
  c = ' ' || c = '\t'

def skipBlanks (text : List Char) : List Char :=
  text.dropWhile isBlank

/-- Characters that a document may hold between line ends: all but the control characters, and tab. -/
def isVisible (c : Char) : Bool :=
  c = '\t' || (0x20 ≤ c.toNat && c.toNat ≠ 0x7F)

def skipComment : List Char → List Char
  | '#' :: rest => rest.dropWhile isVisible
  | text => text

/-- What follows the end of the line, if only blanks and a comment stand before it. -/
def endLine? (text : List Char) : Option (List Char) :=
  match skipComment (skipBlanks text) with
  | [] => some []
  | c :: rest => if c = '\n' then some rest else none

/-- Skips blanks, line ends and comments. -/
def skipLayout (inComment : Bool) : List Char → List Char
  | [] => []
  | c :: rest =>
    if inComment && isVisible c then skipLayout true rest
    else if c = '\n' || isBlank c then skipLayout false rest
    else if c = '#' then skipLayout true rest
    else c :: rest

end ScreenKeyboard.Toml
