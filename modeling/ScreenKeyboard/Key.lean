/-!
Keys of the on-screen keyboard. A key has a layout label, a role that decides what pressing it does,
sizing hints for whoever draws it, and sometimes an icon drawn in place of the label. Behaviour follows
the role alone; the hints never change it.
-/

namespace ScreenKeyboard

inductive Direction
  | left
  | right
  | up
  | down
  deriving DecidableEq, Repr

inductive Modifier
  | shift
  | ctrl
  | alt
  deriving DecidableEq, Repr

/-- What a key does when it is pressed. -/
inductive Role
  | literal
  | space
  | backspace
  | enter
  | tab
  | capsLock
  | modifier (which : Modifier)
  | arrow (towards : Direction)
  | done
  deriving DecidableEq, Repr

def Direction.name : Direction → String
  | left => "Left"
  | right => "Right"
  | up => "Up"
  | down => "Down"

def Modifier.name : Modifier → String
  | shift => "Shift"
  | ctrl => "Ctrl"
  | alt => "Alt"

def Role.name : Role → String
  | literal => "Literal"
  | space => "Space"
  | backspace => "Backspace"
  | enter => "Enter"
  | tab => "Tab"
  | capsLock => "CapsLock"
  | modifier m => "Modifier(" ++ m.name ++ ")"
  | arrow d => "Arrow(" ++ d.name ++ ")"
  | done => "Done"

inductive Icon
  | backspace
  | capsLock
  | enter
  | spaceBar
  | hideKeyboard
  | arrow (towards : Direction)
  deriving DecidableEq, Repr

/-- The icon's name in the Material icon font. -/
def Icon.name : Icon → String
  | backspace => "backspace"
  | capsLock => "keyboard_capslock"
  | enter => "keyboard_return"
  | spaceBar => "space_bar"
  | hideKeyboard => "keyboard_hide"
  | arrow .left => "arrow_back"
  | arrow .right => "arrow_forward"
  | arrow .up => "arrow_upward"
  | arrow .down => "arrow_downward"

/-- A single character that stands in for the icon where the icon font is missing. -/
def Icon.symbol : Icon → String
  | backspace => "⌫"
  | capsLock => "⇪"
  | enter => "⏎"
  | spaceBar => "␣"
  | hideKeyboard => "⌨"
  | arrow .left => "←"
  | arrow .right => "→"
  | arrow .up => "↑"
  | arrow .down => "↓"

/-- Sizing and colouring hints for whoever draws the key. -/
structure Style where
  wide : Bool := false
  extraWide : Bool := false
  tiny : Bool := false
  dark : Bool := false
  activatable : Bool := false
  deriving DecidableEq, Repr

/-- The hints of either style. -/
def Style.union (s t : Style) : Style where
  wide := s.wide || t.wide
  extraWide := s.extraWide || t.extraWide
  tiny := s.tiny || t.tiny
  dark := s.dark || t.dark
  activatable := s.activatable || t.activatable

/-- Each hint with its weight in the numeric form of a style, and whether it is set. -/
def Style.hints (s : Style) : List (String × Nat × Bool) :=
  [("WIDE", 1, s.wide), ("EXTRA_WIDE", 2, s.extraWide), ("TINY", 4, s.tiny), ("DARK", 8, s.dark),
    ("ACTIVATABLE", 16, s.activatable)]

/-- The names of the hints that are set, by ascending weight. -/
def Style.names (s : Style) : List String :=
  (s.hints.filter (·.2.2)).map (·.1)

def Style.toNat (s : Style) : Nat :=
  ((s.hints.filter (·.2.2)).map (·.2.1)).foldl (· + ·) 0

structure Key where
  label : String
  role : Role
  style : Style := {}
  /-- Drawn in place of the label when present. -/
  icon : Option Icon := none
  deriving DecidableEq, Repr

namespace Key

/-- A key that types its label; labels of several characters are drawn tiny. -/
def literal (label : String) : Key where
  label := label
  role := .literal
  style := { tiny := decide (1 < label.toList.length) }

def withStyle (key : Key) (style : Style) : Key :=
  { key with style := key.style.union style }

def withIcon (key : Key) (icon : Icon) : Key :=
  { key with icon := some icon }

/-- Only caps lock keeps a pressed appearance. -/
def isToggle (key : Key) : Bool :=
  key.role = .capsLock

def isWide (key : Key) : Bool :=
  key.style.wide || key.style.extraWide

def isTiny (key : Key) : Bool :=
  key.style.tiny

/-- The text on the key before caps lock was ever pressed. -/
def legend (key : Key) : String :=
  match key.icon with
  | some icon => icon.name
  | none => key.label

/-- What a display without the icon font draws on the key at first. -/
def glyph (key : Key) : String :=
  match key.icon with
  | some icon => icon.symbol
  | none => key.label

/-- The key that a layout label names: its role, its icon and its sizing. -/
def ofLabel (label : String) : Key :=
  match label with
  | "Left" => { label, role := .arrow .left, style := { tiny := true }, icon := some (.arrow .left) }
  | "Right" => { label, role := .arrow .right, style := { tiny := true }, icon := some (.arrow .right) }
  | "Up" => { label, role := .arrow .up, style := { tiny := true }, icon := some (.arrow .up) }
  | "Down" => { label, role := .arrow .down, style := { tiny := true }, icon := some (.arrow .down) }
  | "Backspace" => { label, role := .backspace, style := { wide := true }, icon := some .backspace }
  | "Caps Lock" =>
    { label, role := .capsLock, style := { wide := true, activatable := true }, icon := some .capsLock }
  | "Enter" => { label, role := .enter, style := { wide := true }, icon := some .enter }
  | "Space" => { label, role := .space, style := { extraWide := true }, icon := some .spaceBar }
  | "done" => { label, role := .done, style := { wide := true, dark := true }, icon := some .hideKeyboard }
  | "Tab" => { label, role := .tab, style := { tiny := true } }
  | "Shift" => { label, role := .modifier .shift, style := { tiny := true } }
  | "Ctrl" => { label, role := .modifier .ctrl, style := { tiny := true } }
  | "Alt" => { label, role := .modifier .alt, style := { tiny := true } }
  | _ => literal label

end Key

end ScreenKeyboard
