import ScreenKeyboard.Display
import ScreenKeyboard.Keyboard.Basic
import ScreenKeyboard.Terminal.LineEditor

/-!
A keyboard in a terminal: arrow keys move a selection over the keys of the layout, enter presses the
selected one, and what it types goes to a line editor. While the keyboard is hidden, enter brings it back.
-/

namespace ScreenKeyboard.Terminal

/-- The keys of the terminal that mean something here. -/
inductive TerminalKey
  | left
  | right
  | up
  | down
  | enter
  | escape
  | other
  deriving DecidableEq, Repr

structure App where
  keyboard : Keyboard
  display : Display
  editor : LineEditor
  /-- The index of the selected key. -/
  selected : Nat
  message : String
  quit : Bool
  deriving DecidableEq, Repr

namespace App

/-- Lets the display and the editor follow what the keyboard did. -/
def observe (app : App) : List Event → App
  | [] => app
  | .draw command :: rest => { app with display := app.display.draw Key.glyph command }.observe rest
  | .input _ value :: rest => { app with editor := app.editor.apply value }.observe rest
  | _ :: rest => app.observe rest

/-- Opens the keyboard for the editor, with its text. -/
def openKeyboard (app : App) : App :=
  let (keyboard, events) := app.keyboard.open (String.ofList app.editor.text) (some (.field 0)) none
  { app with keyboard }.observe events

def start : App :=
  let keyboard := Keyboard.ofLayout Layout.qwerty false
  openKeyboard
    { keyboard
      display := Display.blank.follow Key.glyph keyboard.mounting
      editor := .ofText "root@target:~# ".toList
      selected := 0
      message := ""
      quit := false }

/-- The number of the row that holds an index. -/
def rowOf (app : App) (index : Nat) : Nat :=
  (app.display.rows.findIdx? (·.contains index)).getD 0

/-- The index one row from `selected`, in the same column or at the end of a shorter row. -/
def vertical (rows : List Row) (row selected : Nat) (down : Bool) : Nat :=
  let target := if down then min (row + 1) (rows.length - 1) else row - 1
  match rows[row]?, rows[target]? with
  | some here, some there => min (there.start + (selected - here.start)) (there.stop - 1)
  | _, _ => selected

def moveVertically (app : App) (down : Bool) : App :=
  { app with selected := vertical app.display.rows (app.rowOf app.selected) app.selected down }

/-- The message after a press. -/
def report : Outcome → String
  | .typed value => "last key: " ++ Text.quoted value
  | .dismissed => "keyboard hidden, Enter to reopen"

/-- Presses the selected key. -/
def pressSelected (app : App) : App :=
  match app.keyboard.press app.selected with
  | .error refusal => { app with message := refusal.message }
  | .ok (outcome, keyboard, events) => { app with keyboard, message := report outcome }.observe events

def handle (app : App) (key : TerminalKey) : App :=
  if app.keyboard.visible then
    match key with
    | .left => { app with selected := app.selected - 1 }
    | .right => { app with selected := min (app.selected + 1) (app.keyboard.layout.size - 1) }
    | .up => app.moveVertically false
    | .down => app.moveVertically true
    | .escape => { app with quit := true }
    | .enter => app.pressSelected
    | .other => app
  else
    match key with
    | .enter => app.openKeyboard
    | .escape => { app with quit := true }
    | _ => app

end App

end ScreenKeyboard.Terminal
