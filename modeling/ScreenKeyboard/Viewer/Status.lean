/-!
What the status line beside the remote screen says.
-/

namespace ScreenKeyboard.Viewer

inductive Status
  | connecting
  | connected
  /-- The session was closed in order. -/
  | disconnected
  /-- The session broke off, or there is no way to begin one. -/
  | error
  /-- There is no host or no port to connect to. -/
  | misconfigured
  deriving DecidableEq, Repr

namespace Status

def name : Status → String
  | connecting => "Connecting"
  | connected => "Connected"
  | disconnected => "Disconnected"
  | error => "Error"
  | misconfigured => "Misconfigured"

def text : Status → String
  | connecting => "Connecting"
  | connected => "Video"
  | disconnected => "Disconnected"
  | error => "Error"
  | misconfigured => "Must specify host and port in URL"

def color : Status → String
  | connecting => "orange"
  | connected => "green"
  | disconnected | error | misconfigured => "red"

/-- The status after a session ended, in order or not. -/
def ofDisconnect (clean : Bool) : Status :=
  if clean then disconnected else error

end Status

end ScreenKeyboard.Viewer
