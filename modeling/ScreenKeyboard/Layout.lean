import ScreenKeyboard.Key

/-!
Layouts: the keys of a keyboard in reading order, cut into rows after certain labels. The position of a
key in this order is its index everywhere else. `Layout.rows` cuts the indices into consecutive
non-empty ranges that end where `Layout.endsRow` holds.
-/

namespace ScreenKeyboard

structure Layout where
  keys : List Key
  deriving DecidableEq, Repr

/-- A range of key indices: from `start` up to but not including `stop`. -/
structure Row where
  start : Nat
  stop : Nat
  deriving DecidableEq, Repr

def Row.contains (row : Row) (index : Nat) : Bool :=
  row.start ≤ index && index < row.stop

def Row.indices (row : Row) : List Nat :=
  List.range' row.start (row.stop - row.start)

/-- The labels that close a row. -/
def rowEnds : List String :=
  ["Delete", "Backspace", "\\", "Enter", "done"]

def Key.endsRow (key : Key) : Bool :=
  rowEnds.contains key.label

namespace Layout

def ofLabels (labels : List String) : Layout :=
  ⟨labels.map Key.ofLabel⟩

/-- The six rows of a US keyboard. -/
def qwerty : Layout :=
  ofLabels [
    "Esc", "F1", "F2", "F3", "F4", "F5", "F6", "F7", "F8", "F9", "F10", "F11", "F12", "PrtSrc", "Insert",
    "Delete",
    "`", "1", "2", "3", "4", "5", "6", "7", "8", "9", "0", "-", "=", "Backspace",
    "Tab", "q", "w", "e", "r", "t", "y", "u", "i", "o", "p", "[", "]", "\\",
    "Caps Lock", "a", "s", "d", "f", "g", "h", "j", "k", "l", ";", "'", "Enter",
    "Shift", "z", "x", "c", "v", "b", "n", "m", ",", ".", "/", "done",
    "Ctrl", "Alt", "Space", "Alt", "Ctrl", "Left", "Right", "Up", "Down"]

def size (layout : Layout) : Nat :=
  layout.keys.length

def key? (layout : Layout) (index : Nat) : Option Key :=
  layout.keys[index]?

/-- The index of the first key with this label. -/
def indexOf? (layout : Layout) (label : String) : Option Nat :=
  layout.keys.findIdx? (·.label = label)

/-- Whether a row ends after the key at `index`. -/
def endsRow (layout : Layout) (index : Nat) : Bool :=
  (layout.key? index).any Key.endsRow

/-- The rows of `keys`, the first of them at `index`, in a row that began at `start`. -/
def rowsFrom (start index : Nat) : List Key → List Row
  | [] => if start < index then [⟨start, index⟩] else []
  | key :: rest =>
    if key.endsRow then ⟨start, index + 1⟩ :: rowsFrom (index + 1) (index + 1) rest
    else rowsFrom start (index + 1) rest

def rows (layout : Layout) : List Row :=
  rowsFrom 0 0 layout.keys

end Layout

end ScreenKeyboard
