import ScreenKeyboard.Layout
import ScreenKeyboard.Log

/-!
What a keyboard does to its surroundings, as data: commands to the display, calls of the listeners that a
caller installed, and log records. The keyboard itself is a pure step function that returns such events in
the order in which they happen.
-/

namespace ScreenKeyboard

/-- Commands to whoever draws the keyboard. Indices are positions in the layout. -/
inductive Draw
  /-- Build the keys, once, and keep them hidden. -/
  | mount (layout : Layout)
  | reveal
  | hide
  /-- Replace the text on a key. -/
  | rewrite (index : Nat) (legend : String)
  /-- Show a toggle key as engaged or released. -/
  | light (index : Nat) (lit : Bool)
  deriving DecidableEq, Repr

/-- Who is told what a pressed key contributes. -/
inductive Listener
  | caller (name : String)
  /-- The host's field in this slot, which is given the value as its own. -/
  | field (slot : Nat)
  deriving DecidableEq, Repr

namespace Keyboard

/-- What the keyboard writes to the log. -/
inductive Record
  | mounted (keys : Nat)
  | reopened
  | opened (preset : Nat)
  | closed
  | capsLock (engaged : Bool)
  | pressed (index : Nat) (role : Role)
  deriving DecidableEq, Repr

namespace Record

def severity : Record → Log.Severity
  | pressed _ _ => .trace
  | _ => .debug

def text : Record → String
  | mounted keys => "keyboard mounted with " ++ toString keys ++ " keys"
  | reopened => "keyboard reopened; previous handlers replaced"
  | opened preset => "keyboard opened (" ++ toString preset ++ " chars preset)"
  | closed => "keyboard closed"
  | capsLock true => "caps lock engaged"
  | capsLock false => "caps lock released"
  | pressed index role => "key " ++ toString index ++ " (" ++ role.name ++ ") actuated"

end Record

end Keyboard

inductive Event
  | draw (command : Draw)
  | input (listener : Listener) (value : String)
  /-- The close listener of this name is called. -/
  | closed (name : String)
  | log (record : Keyboard.Record)
  deriving DecidableEq, Repr

end ScreenKeyboard
