import ScreenKeyboard.Text.CodeRun
import ScreenKeyboard.Text.InvisibleTable

/-!
Text in double quotes for messages. Quotes and backslashes are escaped, the common control characters have
names, and every other character that could not be told apart on a screen is written by its code point.
-/

namespace ScreenKeyboard.Text

namespace Quoted

def invisible : List (Nat × Nat) :=
  CodeTable.ranges invisibleRanges

def escape (c : Char) : List Char :=
  if c = '"' then ['\\', '"']
  else if c = '\\' then ['\\', '\\']
  else if c = '\x00' then ['\\', '0']
  else if c = '\t' then ['\\', 't']
  else if c = '\n' then ['\\', 'n']
  else if c = '\r' then ['\\', 'r']
  else if inRanges invisible c then ['\\', 'u', '\x7b'] ++ Nat.toDigits 16 c.toNat ++ ['\x7d']
  else [c]

end Quoted

def quoted (text : String) : String :=
  String.ofList ('"' :: text.toList.flatMap Quoted.escape ++ ['"'])

end ScreenKeyboard.Text
