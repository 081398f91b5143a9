import ScreenKeyboard.Log
import ScreenKeyboard.Text.WhiteSpace
import ScreenKeyboard.Text.Quoted
import ScreenKeyboard.Viewer.Endpoint

/-!
What the viewer writes to the log, and the log level that its settings ask for.
-/

namespace ScreenKeyboard

namespace Viewer

inductive Record
  | unknownLevel (name : String)
  | noEndpoint
  | rejected (error : EndpointError)
  | dropped
  | connecting (url : Url)
  | desktopName (name : String)
  deriving DecidableEq, Repr

def Record.severity : Record → Log.Severity
  | unknownLevel _ | noEndpoint | rejected _ | dropped => .warn
  | connecting _ => .info
  | desktopName _ => .debug

def Record.text : Record → String
  | unknownLevel name => "unknown viewer log level " ++ Text.quoted name ++ ", using warn"
  | noEndpoint => "viewer has no host or port configured"
  | rejected error => "viewer url rejected: " ++ error.message
  | dropped => "viewer connection dropped"
  | connecting url => "connecting viewer to " ++ toString url
  | desktopName name => "remote desktop name: " ++ name

/-- The thresholds that a log level may name. -/
def levels : List (String × Log.Threshold) :=
  [("debug", .upTo .debug), ("info", .upTo .info), ("warn", .upTo .warn), ("error", .upTo .error),
    ("none", .off), ("off", .off)]

end Viewer

namespace ViewerSettings

/-- The name of the log level without white space around it, in lower case. -/
def levelName (settings : ViewerSettings) : String :=
  String.ofList ((Text.trim Text.isWhiteSpace settings.logging.toList).map Char.toLower)

/-- The threshold that the settings ask for; a name that is not known stands for warnings. -/
def threshold (settings : ViewerSettings) : Log.Threshold :=
  (Viewer.levels.lookup settings.levelName).getD (.upTo .warn)

/-- The complaint about a name that is not known. -/
def levelComplaint (settings : ViewerSettings) : Option Viewer.Record :=
  if (Viewer.levels.lookup settings.levelName).isSome then none else some (.unknownLevel settings.levelName)

end ViewerSettings

end ScreenKeyboard
