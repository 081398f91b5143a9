import ScreenKeyboard.Keyboard.Event
import ScreenKeyboard.Legend
import ScreenKeyboard.Text.Quoted

/-!
The keyboard. One caller at a time owns it: opening it replaces the listeners of whoever had it before.
Pressing a key reports what the key contributes to the input listener; the done key hides the keyboard and
tells the close listener. Caps lock rewrites legends one by one from what they show at that moment, so a
legend is what its key types, and it survives closing and opening. Fields of the host can be bound; focusing
one opens the keyboard with the field's text and lets every value overwrite it.
-/

namespace ScreenKeyboard

/-- Why an operation was refused. A refused operation changes nothing. -/
inductive Refusal
  | noSuchKey (index : Nat)
  | noSuchLabel (label : String)
  | noSuchField (id : Nat)
  deriving DecidableEq, Repr

def Refusal.message : Refusal → String
  | noSuchKey index => "no key at index " ++ toString index
  | noSuchLabel label => "no key labelled " ++ Text.quoted label
  | noSuchField id => "no bound field FieldId(" ++ toString id ++ ")"

/-- What became of pressing a key. -/
inductive Outcome
  /-- The key contributed a value. -/
  | typed (value : String)
  | dismissed
  deriving DecidableEq, Repr

structure Keyboard where
  layout : Layout
  /-- Whether closing forgets the listeners. -/
  forgetful : Bool
  /-- What each key shows. -/
  legends : List String
  /-- What the last pressed key contributed, or the text the keyboard was opened with. -/
  value : String
  capsLock : Bool
  visible : Bool
  onInput : Option Listener
  onClose : Option String
  /-- The slots of the bound fields; the position of a slot is the field's id. -/
  bound : List Nat
  deriving DecidableEq, Repr

namespace Keyboard

/-- A keyboard that shows the legends of its layout, hidden and without listeners. -/
def ofLayout (layout : Layout) (forgetful : Bool) : Keyboard where
  layout := layout
  forgetful := forgetful
  legends := layout.keys.map Key.legend
  value := ""
  capsLock := false
  visible := false
  onInput := none
  onClose := none
  bound := []

/-- What building a keyboard does: its display is mounted, and the log says so. -/
def mounting (keyboard : Keyboard) : List Event :=
  [.draw (.mount keyboard.layout), .log (.mounted keyboard.layout.size)]

/-- Shows the keyboard for a new caller, with the caller's text as its value. -/
def «open» (keyboard : Keyboard) (value : String) (onInput : Option Listener) (onClose : Option String) :
    Keyboard × List Event :=
  ({ keyboard with value, visible := true, onInput, onClose },
    (if keyboard.visible then [.log .reopened] else [])
      ++ [.draw .reveal, .log (.opened value.toList.length)])

/-- Hides the keyboard and clears its value; caps lock stays. -/
def close (keyboard : Keyboard) : Keyboard × List Event :=
  ({ keyboard with
      value := ""
      visible := false
      onInput := if keyboard.forgetful then none else keyboard.onInput
      onClose := if keyboard.forgetful then none else keyboard.onClose },
    [.draw .hide, .log .closed])

/-- Makes `value` the keyboard's value and reports it to the input listener. -/
def emit (keyboard : Keyboard) (value : String) : Keyboard × List Event :=
  ({ keyboard with value }, (keyboard.onInput.map (Event.input · value)).toList)

/-- The new legends that caps lock brings, in the order of the keys. Keys with an icon keep it. -/
def recased (engaged : Bool) (keys : List Key) (legends : List String) : List (Option String) :=
  List.zipWith (fun key legend => if key.icon.isSome then none else Legend.recase? engaged legend) keys legends

/-- The commands that draw the new legends, the first of them for the key at `index`. -/
def rewrites (index : Nat) : List (Option String) → List Draw
  | [] => []
  | none :: rest => rewrites (index + 1) rest
  | some legend :: rest => .rewrite index legend :: rewrites (index + 1) rest

/-- Turns caps lock over: every legend with a caps form is rewritten, then the pressed key is lit. -/
def turnCapsLock (keyboard : Keyboard) (index : Nat) : Keyboard × List Event :=
  let engaged := !keyboard.capsLock
  let changes := recased engaged keyboard.layout.keys keyboard.legends
  ({ keyboard with
      capsLock := engaged
      legends := List.zipWith (fun legend change => change.getD legend) keyboard.legends changes },
    (rewrites 0 changes).map .draw ++ [.draw (.light index engaged), .log (.capsLock engaged)])

/-- What a key that types text types now. -/
def typed (keyboard : Keyboard) (index : Nat) (key : Key) : String :=
  if key.icon.isSome then key.label else keyboard.legends[index]?.getD key.label

/-- What pressing `key`, the key at `index`, does. -/
def actuate (keyboard : Keyboard) (index : Nat) (key : Key) : Outcome × Keyboard × List Event :=
  match key.role with
  | .literal | .modifier _ =>
    let text := keyboard.typed index key
    (.typed text, keyboard.emit text)
  | .space => (.typed " ", keyboard.emit " ")
  | .backspace | .enter | .tab | .arrow _ => (.typed key.label, keyboard.emit key.label)
  | .capsLock =>
    let (reported, calls) := keyboard.emit key.label
    let (toggled, drawing) := reported.turnCapsLock index
    (.typed key.label, toggled, calls ++ drawing)
  | .done =>
    let (closed, events) := keyboard.close
    (.dismissed, closed, events ++ (keyboard.onClose.map Event.closed).toList)

/-- Presses the key at `index`. -/
def press (keyboard : Keyboard) (index : Nat) : Except Refusal (Outcome × Keyboard × List Event) :=
  match keyboard.layout.key? index with
  | none => .error (.noSuchKey index)
  | some key =>
    let (outcome, after, events) := keyboard.actuate index key
    .ok (outcome, after, .log (.pressed index key.role) :: events)

/-- Presses the first key with this layout label, whatever it shows. -/
def pressLabel (keyboard : Keyboard) (label : String) : Except Refusal (Outcome × Keyboard × List Event) :=
  match keyboard.layout.indexOf? label with
  | none => .error (.noSuchLabel label)
  | some index => keyboard.press index

/-- Binds the field in a slot and gives it the next id. -/
def bind (keyboard : Keyboard) (slot : Nat) : Nat × Keyboard :=
  (keyboard.bound.length, { keyboard with bound := keyboard.bound ++ [slot] })

/-- Opens the keyboard for a bound field, with the text that the field has then. -/
def focus (keyboard : Keyboard) (id : Nat) (textOf : Nat → String) :
    Except Refusal (Keyboard × List Event) :=
  match keyboard.bound[id]? with
  | none => .error (.noSuchField id)
  | some slot => .ok (keyboard.open (textOf slot) (some (.field slot)) none)

/-- What the key at `index` shows. -/
def legend? (keyboard : Keyboard) (index : Nat) : Option String :=
  keyboard.legends[index]?

/-- Whether value, caps lock and visibility are those of a new keyboard. -/
def isFresh (keyboard : Keyboard) : Bool :=
  keyboard.value = "" && !keyboard.capsLock && !keyboard.visible

end Keyboard

end ScreenKeyboard
