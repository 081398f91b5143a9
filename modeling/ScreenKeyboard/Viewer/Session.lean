import ScreenKeyboard.Viewer.Basic

/-!
A viewer in use, with the log, the status line and the client that its effects go to. The log delivers a
record only if the threshold in force at that moment admits it.
-/

namespace ScreenKeyboard.Viewer

/-- What is noticed of an effect. -/
inductive Notice
  | shown (status : Status)
  | connected (url : Url) (options : ClientOptions)
  | logged (record : Record)
  deriving DecidableEq, Repr

structure Session where
  viewer : Viewer
  threshold : Log.Threshold
  /-- Every status that the status line has shown. -/
  shown : List Status
  /-- How often the client was told to connect. -/
  connects : Nat
  deriving DecidableEq, Repr

inductive Request
  | load
  | report (report : Report)
  deriving DecidableEq, Repr

namespace Session

def start (settings : ViewerSettings) (page : Page) : Session where
  viewer := .ofSettings settings page
  threshold := .upTo .trace
  shown := []
  connects := 0

/-- Carries out one effect. -/
def observe (session : Session) : Effect → Session × Option Notice
  | .threshold threshold => ({ session with threshold }, none)
  | .show status => ({ session with shown := session.shown ++ [status] }, some (.shown status))
  | .connect url options =>
    ({ session with connects := session.connects + 1 }, some (.connected url options))
  | .log record =>
    (session, if session.threshold.admits record.severity then some (.logged record) else none)

def observeAll (session : Session) : List Effect → Session × List Notice
  | [] => (session, [])
  | effect :: rest =>
    let (next, notice) := session.observe effect
    let (last, notices) := next.observeAll rest
    (last, notice.toList ++ notices)

/-- Answers a request: the address or the error if the viewer was loaded. -/
def step (session : Session) :
    Request → Option (Except EndpointError Url) × Session × List Notice
  | .load =>
    let (result, viewer, effects) := session.viewer.load
    let (next, notices) := { session with viewer }.observeAll effects
    (some result, next, notices)
  | .report report =>
    let (viewer, effects) := session.viewer.handle report
    let (next, notices) := { session with viewer }.observeAll effects
    (none, next, notices)

end Session

end ScreenKeyboard.Viewer
