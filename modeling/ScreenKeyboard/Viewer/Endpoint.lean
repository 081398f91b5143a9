import ScreenKeyboard.Settings.Basic
import ScreenKeyboard.Url.Reading

/-!
Where the viewer connects to: the address that its settings and the page it runs on make up, with the
token added to the query unless the address has one already.
-/

namespace ScreenKeyboard

/-- The page that the viewer runs on. -/
structure Page where
  hostname : String := ""
  https : Bool := false
  deriving DecidableEq, Repr

namespace Viewer

inductive EndpointError
  /-- There is no host or no port to connect to. -/
  | missing
  | invalid (reason : Url.Error)
  deriving DecidableEq, Repr

def EndpointError.message : EndpointError → String
  | missing => "must specify host and port"
  | invalid reason => "invalid viewer url: " ++ reason.message

end Viewer

namespace ViewerSettings

/-- The host of the settings or else of the page. -/
def hostOn (settings : ViewerSettings) (page : Page) : String :=
  if settings.host = "" then page.hostname else settings.host

def schemeOn (settings : ViewerSettings) (page : Page) : Url.Scheme :=
  if settings.encrypt.getD page.https then .wss else .ws

/-- The text of the address before the token is added. -/
def baseText (settings : ViewerSettings) (page : Page) : String :=
  String.ofList
    ((settings.schemeOn page).name.toList ++ "://".toList ++ (settings.hostOn page).toList
      ++ ':' :: Nat.toDigits 10 settings.port.toNat
      ++ '/' :: settings.path.toList.dropWhile (· = '/'))

/-- Adds the token of the settings to the query, unless there is none or the query has one. -/
def withToken (settings : ViewerSettings) (url : Url) : Url :=
  match settings.token with
  | none => url
  | some token =>
    if token = "" ∨ url.pairs.any (·.1 = "token") then url else url.appendPair "token" token

/-- The address to connect to from a page. -/
def endpoint (settings : ViewerSettings) (page : Page) : Except Viewer.EndpointError Url :=
  if settings.hostOn page = "" ∨ settings.port = 0 then .error .missing
  else
    match Url.read (settings.baseText page) with
    | .error reason => .error (.invalid reason)
    | .ok url => .ok (settings.withToken url)

end ViewerSettings

end ScreenKeyboard
