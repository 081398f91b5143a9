import ScreenKeyboard.Display
import ScreenKeyboard.Field
import ScreenKeyboard.Keyboard.Basic

/-!
A window with two text fields and, while a field is being written, the keys of a keyboard as buttons. A
click on a field that does not have the window's focus gives it the focus and opens the keyboard for it; a
click on a key presses it, and what it types replaces the text of the field that was opened last.
-/

namespace ScreenKeyboard

structure Panel where
  keyboard : Keyboard
  display : Display
  /-- The fields, each of which is bound to the keyboard under its position. -/
  fields : List Field
  /-- The field that has the window's focus. -/
  focused : Option Nat
  /-- What was pressed last. -/
  last : String
  deriving DecidableEq, Repr

namespace Panel

def start : Panel :=
  let keyboard := Keyboard.ofLayout Layout.qwerty false
  { keyboard := ((keyboard.bind 0).2.bind 1).2
    display := Display.blank.follow Key.glyph keyboard.mounting
    fields := [.ofText "hostname" "target" true false, .ofText "command" "" true false]
    focused := none
    last := "" }

/-- Lets the display and the fields follow what the keyboard did. -/
def observe (panel : Panel) : List Event → Panel
  | [] => panel
  | .draw command :: rest => { panel with display := panel.display.draw Key.glyph command }.observe rest
  | .input (.field slot) value :: rest =>
    { panel with fields := panel.fields.modify slot (·.write value) }.observe rest
  | _ :: rest => panel.observe rest

def textOf (panel : Panel) (slot : Nat) : String :=
  (panel.fields[slot]?.map (·.text)).getD ""

/-- The field at a position gains the focus: the keyboard opens for it. -/
def gain (panel : Panel) (slot : Nat) : Panel :=
  match panel.keyboard.focus slot panel.textOf with
  | .error _ => panel
  | .ok (keyboard, events) => { panel with keyboard }.observe events

/-- The texts of the buttons on the screen. -/
def buttons (panel : Panel) : List String :=
  if panel.display.visible then panel.display.texts else []

/-- What was pressed, as the caption below the fields names it. -/
def report : Outcome → String
  | .typed value => value
  | .dismissed => "done"

/-- Presses the key at a position. -/
def press (panel : Panel) (index : Nat) : Panel :=
  match panel.keyboard.press index with
  | .error refusal => { panel with last := refusal.message }
  | .ok (outcome, keyboard, events) => { panel with keyboard, last := report outcome }.observe events

/-- What the user does to one frame of the window. -/
structure Frame where
  /-- The field that gains the focus, if one does. -/
  gained : Option (Fin 2)
  /-- The position of the button that is clicked, if one is. -/
  clicked : Option Nat
  deriving DecidableEq, Repr

/-- The window after the fields of a frame were drawn. -/
def drawFields (panel : Panel) (frame : Frame) : Panel :=
  frame.gained.elim panel fun slot => panel.gain slot

/-- Goes through one frame, from top to bottom: the buttons are there if the keyboard is visible by then. -/
def update (panel : Panel) (frame : Frame) : Panel :=
  let opened := panel.drawFields frame
  match frame.clicked with
  | some index => if index < opened.buttons.length then opened.press index else opened
  | none => opened

/-- A click on the field at a position. -/
def clickField (panel : Panel) (slot : Nat) : Panel :=
  if panel.focused = some slot then panel else { panel with focused := some slot }.gain slot

def clickElsewhere (panel : Panel) : Panel :=
  { panel with focused := none }

/-- A click on the button at a position, if there is one. It takes the focus away as any click outside the fields. -/
def clickKey (panel : Panel) (index : Nat) : Option Panel :=
  if index < panel.buttons.length then some (panel.clickElsewhere.update ⟨none, some index⟩) else none

/-- A click on the first button that shows a text, if there is one. -/
def clickText (panel : Panel) (text : String) : Option Panel :=
  (panel.buttons.findIdx? (· = text)).bind panel.clickKey

/-- The texts that are not on buttons or in fields, from top to bottom. -/
def captions (panel : Panel) : List String :=
  ["softboard demo"] ++ panel.fields.map (·.name) ++ ["last key: " ++ Text.quoted panel.last]

end Panel

end ScreenKeyboard
