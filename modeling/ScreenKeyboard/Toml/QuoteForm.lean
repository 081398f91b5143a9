import ScreenKeyboard.Text.Digit

/-!
Writing strings for TOML. A string is written in the plainest form that can hold it: double quotes, single
quotes, and the forms with three quotes, in this order as long as nothing has to be escaped; a string that
every form would have to escape is written between double quotes, three of them if it holds a newline.
-/

namespace ScreenKeyboard.Toml

/-- The forms of a quoted string. -/
inductive QuoteForm
  | basic
  | literal
  | basicBlock
  | literalBlock
  deriving DecidableEq, Repr

namespace QuoteForm

/-- Control characters that no form holds as they are. -/
def isControl (c : Char) : Bool :=
  (c.toNat < 0x20 && c ≠ '\t' && c ≠ '\n') || c.toNat = 0x7F

/-- Whether three quotes stand in a row somewhere. -/
def hasThree (quote : Char) : List Char → Bool
  | [] => false
  | c :: rest => [quote, quote, quote].isPrefixOf (c :: rest) || hasThree quote rest

/-- The form in which a string is written. -/
def of (text : List Char) : QuoteForm :=
  let control := text.any isControl
  let newline := text.contains '\n'
  if !control && !newline && !text.contains '\\' && !text.contains '"' then .basic
  else if !control && !newline && !text.contains '\'' then .literal
  else if !control && !text.contains '\\' && !hasThree '"' text then .basicBlock
  else if !control && !hasThree '\'' text then .literalBlock
  else if newline then .basicBlock
  else .basic

/-- A character other than a double quote and a newline as it stands between double quotes. -/
def escape (c : Char) : List Char :=
  if c = '\\' then ['\\', '\\']
  else if c = '\t' then ['\\', 't']
  else if c = '\x08' then ['\\', 'b']
  else if c = '\x0c' then ['\\', 'f']
  else if c = '\r' then ['\\', 'r']
  else if isControl c then ['\\', 'u', '0', '0', Text.hexDigit (c.toNat / 16), Text.hexDigit (c.toNat % 16)]
  else [c]

def writeBasic (text : List Char) : List Char :=
  text.flatMap fun c => if c = '"' then ['\\', '"'] else if c = '\n' then ['\\', 'n'] else escape c

/-- Writes a string for three double quotes, after `run` quotes in a row: every third quote is escaped. -/
def writeBlock (run : Nat) : List Char → List Char
  | [] => []
  | c :: rest =>
    if c = '"' then
      if run = 2 then '\\' :: '"' :: writeBlock 0 rest else '"' :: writeBlock (run + 1) rest
    else if c = '\n' then '\n' :: writeBlock 0 rest
    else escape c ++ writeBlock 0 rest

/-- The newline that stands before a string with newlines, so that it begins on a line of its own. -/
def lead (text : List Char) : List Char :=
  if text.contains '\n' then ['\n'] else []

def write (form : QuoteForm) (text : List Char) : List Char :=
  match form with
  | basic => ['"'] ++ writeBasic text ++ ['"']
  | literal => ['\''] ++ text ++ ['\'']
  | basicBlock => ['"', '"', '"'] ++ lead text ++ writeBlock 0 text ++ ['"', '"', '"']
  | literalBlock => ['\'', '\'', '\''] ++ lead text ++ text ++ ['\'', '\'', '\'']

end QuoteForm

/-- A string as it is written in a document. -/
def quote (text : String) : List Char :=
  (QuoteForm.of text.toList).write text.toList

end ScreenKeyboard.Toml
