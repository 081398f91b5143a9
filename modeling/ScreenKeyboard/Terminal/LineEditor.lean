/-!
A line of text with a cursor that takes what an on-screen keyboard types: single characters are inserted at
the cursor, some named keys edit or move, and all other names do nothing.
-/

namespace ScreenKeyboard.Terminal

structure LineEditor where
  text : List Char
  /-- How many characters stand before the cursor. -/
  cursor : Nat
  deriving DecidableEq, Repr

namespace LineEditor

/-- The editor of a text, with the cursor at its end. -/
def ofText (text : List Char) : LineEditor :=
  { text, cursor := text.length }

def before (editor : LineEditor) : List Char :=
  editor.text.take editor.cursor

def after (editor : LineEditor) : List Char :=
  editor.text.drop editor.cursor

def insert (editor : LineEditor) (c : Char) : LineEditor where
  text := editor.before ++ c :: editor.after
  cursor := editor.cursor + 1

/-- Removes the character before the cursor. -/
def erase (editor : LineEditor) : LineEditor :=
  if editor.cursor = 0 then editor
  else { text := editor.text.eraseIdx (editor.cursor - 1), cursor := editor.cursor - 1 }

/-- Takes a value that the keyboard reported. -/
def apply (editor : LineEditor) (value : String) : LineEditor :=
  if value = "Backspace" then editor.erase
  else if value = "Left" then { editor with cursor := editor.cursor - 1 }
  else if value = "Right" then { editor with cursor := min (editor.cursor + 1) editor.text.length }
  else if value = "Tab" then editor.insert '\t'
  else
    match value.toList with
    | [c] => editor.insert c
    | _ => editor

/-- The characters of a text with the bytes at which they begin, the first of them at `start`. -/
def charIndices (start : Nat) : List Char → List (Nat × Char)
  | [] => []
  | c :: rest => (start, c) :: charIndices (start + c.utf8Size) rest

/-- The byte at which the character at the cursor begins, or the end of the text. -/
def cursorByte (editor : LineEditor) : Nat :=
  match (charIndices 0 editor.text)[editor.cursor]? with
  | some (index, _) => index
  | none => (String.ofList editor.text).utf8ByteSize

/-- The text cut in two at a byte, if a character begins there or the text ends. -/
def cutAt? (text : String) (byte : Nat) : Option (String × String) :=
  (text.pos? ⟨byte⟩).map fun cut => ((text.sliceTo cut).copy, (text.sliceFrom cut).copy)

/-- The text cut in two at the cursor. -/
def halves? (editor : LineEditor) : Option (String × String) :=
  cutAt? (String.ofList editor.text) editor.cursorByte

end LineEditor

end ScreenKeyboard.Terminal
