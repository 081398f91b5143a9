import ScreenKeyboard.Viewer.Logging
import ScreenKeyboard.Viewer.Status

/-!
The viewer for a remote screen. Loading it works out where to connect to and hands the address to the client
that carries the picture; the client reports back what became of the connection. The status line shows the
last of these steps. All that a step does to its surroundings is returned as a list of effects in order;
log records are part of it whether or not they are delivered.
-/

namespace ScreenKeyboard

namespace Viewer

/-- What the client is told apart from the address. -/
structure ClientOptions where
  repeaterId : String
  shared : Bool
  password : String
  viewOnly : Bool
  scaleViewport : Bool
  resizeSession : Bool
  deriving DecidableEq, Repr

inductive Effect
  /-- From here on the log delivers what this threshold admits. -/
  | threshold (threshold : Log.Threshold)
  | show (status : Status)
  | connect (url : Url) (options : ClientOptions)
  | log (record : Record)
  deriving DecidableEq, Repr

/-- What the client reports. -/
inductive Report
  | connected
  | disconnected (clean : Bool)
  | desktopName (name : String)
  deriving DecidableEq, Repr

end Viewer

def ViewerSettings.clientOptions (settings : ViewerSettings) : Viewer.ClientOptions where
  repeaterId := settings.repeaterId
  shared := settings.shared
  password := settings.password
  viewOnly := settings.viewOnly
  scaleViewport := settings.scale
  resizeSession := settings.resize

structure Viewer where
  settings : ViewerSettings
  page : Page
  /-- The status shown last. -/
  status : Option Viewer.Status
  desktopName : Option String
  deriving DecidableEq, Repr

namespace Viewer

def ofSettings (settings : ViewerSettings) (page : Page) : Viewer :=
  { settings, page, status := none, desktopName := none }

/-- Begins a session. The log level of the settings holds from here on, whether an address is found or not. -/
def load (viewer : Viewer) : Except EndpointError Url × Viewer × List Effect :=
  let begin :=
    (viewer.settings.levelComplaint.map Effect.log).toList
      ++ [.threshold viewer.settings.threshold, .show .connecting]
  match viewer.settings.endpoint viewer.page with
  | .ok url =>
    (.ok url, { viewer with status := some .connecting },
      begin ++ [.log (.connecting url), .connect url viewer.settings.clientOptions])
  | .error .missing =>
    (.error .missing, { viewer with status := some .misconfigured },
      begin ++ [.log .noEndpoint, .show .misconfigured])
  | .error error =>
    (.error error, { viewer with status := some .error },
      begin ++ [.log (.rejected error), .show .error])

/-- Takes in a report of the client. -/
def handle (viewer : Viewer) : Report → Viewer × List Effect
  | .connected => ({ viewer with status := some .connected }, [.show .connected])
  | .disconnected clean =>
    let status := Status.ofDisconnect clean
    ({ viewer with status := some status }, (if clean then [] else [.log .dropped]) ++ [.show status])
  | .desktopName name => ({ viewer with desktopName := some name }, [.log (.desktopName name)])

end Viewer

end ScreenKeyboard
