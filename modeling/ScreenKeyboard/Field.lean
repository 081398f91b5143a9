/-!
Text fields of the host that a keyboard may write.
-/

namespace ScreenKeyboard

/-- A text field of the host. -/
structure Field where
  name : String
  text : String
  /-- Whether the field may be bound to the keyboard. -/
  optsIn : Bool
  /-- Whether a value is added to the text rather than put in its place. -/
  appends : Bool
  /-- How many values the field was given. -/
  writes : Nat
  deriving DecidableEq, Repr

def Field.ofText (name text : String) (optsIn appends : Bool) : Field :=
  { name, text, optsIn, appends, writes := 0 }

/-- Gives the field a value. -/
def Field.write (field : Field) (value : String) : Field :=
  { field with
    text := if field.appends then field.text ++ value else value
    writes := field.writes + 1 }

end ScreenKeyboard
