import ScreenKeyboard.Keyboard.Event

/-!
A display that keeps what it was told to draw. How a key looks before anything is redrawn is up to the
display: one with the icon font shows legends, one without shows symbols.
-/

namespace ScreenKeyboard

structure Display where
  texts : List String
  lit : List Bool
  wide : List Bool
  rows : List Row
  visible : Bool
  /-- How often keys were built. -/
  mounts : Nat
  deriving DecidableEq, Repr

namespace Display

def blank : Display where
  texts := []
  lit := []
  wide := []
  rows := []
  visible := false
  mounts := 0

/-- Carries out a command; `face` is what a key shows when it is built. -/
def draw (face : Key → String) (display : Display) : Draw → Display
  | .mount layout =>
    { display with
      texts := layout.keys.map face
      lit := layout.keys.map fun _ => false
      wide := layout.keys.map Key.isWide
      rows := layout.rows
      mounts := display.mounts + 1 }
  | .reveal => { display with visible := true }
  | .hide => { display with visible := false }
  | .rewrite index legend => { display with texts := display.texts.set index legend }
  | .light index lit => { display with lit := display.lit.set index lit }

/-- Carries out the drawing commands among the events, in order. -/
def follow (face : Key → String) (display : Display) (events : List Event) : Display :=
  events.foldl
    (fun display event =>
      match event with
      | .draw command => display.draw face command
      | _ => display)
    display

/-- The indices at which a flag is set, ascending. -/
def indicesOf (flags : List Bool) : List Nat :=
  (flags.zipIdx.filter (·.1)).map (·.2)

end Display

end ScreenKeyboard
