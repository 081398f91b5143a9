import ScreenKeyboard.Settings.Reading
import ScreenKeyboard.Text.Utf8

/-!
Settings from the bytes of a file that may be missing.
-/

namespace ScreenKeyboard

namespace Settings

inductive LoadFailure
  | missing
  | notText
  /-- Not a document, or one with a setting of the wrong type. -/
  | malformed
  deriving DecidableEq, Repr

/-- What is said of a file that could not be read. -/
def LoadFailure.message : LoadFailure → String
  | missing => "failed to read config file: No such file or directory (os error 2)"
  | notText => "failed to read config file: stream did not contain valid UTF-8"
  | malformed => "invalid config"

/-- The settings in a file with this content. -/
def load (content : Option Text.Utf8.Bytes) : Except LoadFailure Settings :=
  match content with
  | none => .error .missing
  | some bytes =>
    match Text.Utf8.decode? bytes with
    | none => .error .notText
    | some text =>
      match read? (String.ofList text) with
      | none => .error .malformed
      | some settings => .ok settings

/-- The log record of a file whose settings were loaded. -/
def loadedText (file : String) : String :=
  "Loaded config from " ++ file

end Settings

end ScreenKeyboard
