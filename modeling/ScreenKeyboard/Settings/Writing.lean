import ScreenKeyboard.Settings.Basic
import ScreenKeyboard.Toml.QuoteForm

/-!
Settings as a TOML document: a table for the keyboard and a table for the viewer, every setting on a line of
its own, those that are not set left out.
-/

namespace ScreenKeyboard

namespace Settings

def writeBool (b : Bool) : List Char :=
  (if b then "true" else "false").toList

def line (name : String) (value : List Char) : List Char :=
  name.toList ++ [' ', '=', ' '] ++ value ++ ['\n']

def optionalLine (name : String) (value : Option (List Char)) : List Char :=
  match value with
  | none => []
  | some value => line name value

def writeKeyboard (keyboard : KeyboardSettings) : List Char :=
  line "release_handlers_on_close" (writeBool keyboard.forgetful)

def writeViewer (viewer : ViewerSettings) : List Char :=
  line "host" (Toml.quote viewer.host)
    ++ line "port" (Nat.toDigits 10 viewer.port.toNat)
    ++ line "path" (Toml.quote viewer.path)
    ++ optionalLine "token" (viewer.token.map Toml.quote)
    ++ optionalLine "encrypt" (viewer.encrypt.map writeBool)
    ++ line "shared" (writeBool viewer.shared)
    ++ line "view_only" (writeBool viewer.viewOnly)
    ++ line "scale" (writeBool viewer.scale)
    ++ line "resize" (writeBool viewer.resize)
    ++ line "repeater_id" (Toml.quote viewer.repeaterId)
    ++ line "password" (Toml.quote viewer.password)
    ++ line "logging" (Toml.quote viewer.logging)

/-- The document that describes the settings. -/
def write (settings : Settings) : String :=
  String.ofList
    ("[keyboard]\n".toList ++ writeKeyboard settings.keyboard ++ "\n[viewer]\n".toList
      ++ writeViewer settings.viewer)

end Settings

end ScreenKeyboard
