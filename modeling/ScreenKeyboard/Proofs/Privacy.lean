import ScreenKeyboard.Proofs.Records

/-!
What can be seen of a viewer's settings. Settings with the same host, port, path, token and encryption lead to runs
that cannot be told apart by answers, statuses and addresses, whatever else they say; if they name the same log level,
the log is the same too (`appearance_along_runs`). Only the client is told the options.
-/

namespace ScreenKeyboard

/-- Of two settings, that they lead to the same address from every page. -/
structure ViewerSettings.SameAddress (settings other : ViewerSettings) : Prop where
  host_eq : other.host = settings.host
  port_eq : other.port = settings.port
  path_eq : other.path = settings.path
  token_eq : other.token = settings.token
  encrypt_eq : other.encrypt = settings.encrypt

namespace ViewerSettings

variable {settings other : ViewerSettings}

theorem SameAddress.hostOn_eq (h : settings.SameAddress other) (page : Page) :
    other.hostOn page = settings.hostOn page := by
  rw [hostOn, hostOn, h.host_eq]

theorem SameAddress.baseText_eq (h : settings.SameAddress other) (page : Page) :
    other.baseText page = settings.baseText page := by
  rw [baseText, baseText, schemeOn, schemeOn, h.hostOn_eq, h.port_eq, h.path_eq, h.encrypt_eq]

theorem SameAddress.withToken_eq (h : settings.SameAddress other) (url : Url) :
    other.withToken url = settings.withToken url := by
  rw [withToken, withToken, h.token_eq]

theorem SameAddress.endpoint_eq (h : settings.SameAddress other) (page : Page) :
    other.endpoint page = settings.endpoint page := by
  simp only [endpoint, h.hostOn_eq, h.port_eq, h.baseText_eq, h.withToken_eq]

/-- The log level depends on its name alone. -/
theorem level_congr (h : other.logging = settings.logging) :
    other.threshold = settings.threshold ∧ other.levelComplaint = settings.levelComplaint := by
  have hname : other.levelName = settings.levelName := by
    rw [levelName, levelName, h]
  exact ⟨by rw [threshold, threshold, hname], by rw [levelComplaint, levelComplaint, hname]⟩

end ViewerSettings

namespace Viewer

/-- What others than the client see of a notice: all but the options. -/
inductive Sight
  | status (shown : Status)
  | address (url : Url)
  | record (written : Record)
  deriving DecidableEq, Repr

def Sight.status? : Sight → Option Status
  | .status shown => some shown
  | _ => none

def Sight.passes (threshold : Log.Threshold) : Sight → Bool
  | .record written => threshold.admits written.severity
  | _ => true

def Notice.sight : Notice → Sight
  | .shown status => .status status
  | .connected url _ => .address url
  | .logged record => .record record

theorem filterMap_status? (notices : List Notice) :
    notices.filterMap Notice.status? = (notices.map Notice.sight).filterMap Sight.status? := by
  rw [List.filterMap_map]
  refine congrArg (notices.filterMap ·) (funext fun notice => ?_)
  cases notice <;> rfl

theorem Notice.passes_eq (threshold : Log.Threshold) (notice : Notice) :
    notice.passes threshold = notice.sight.passes threshold := by
  cases notice <;> rfl

/-- What is seen of an exchange but for the log. -/
structure Appearance where
  answer : Option (Except EndpointError Url)
  /-- The statuses shown and the addresses connected to, in order. -/
  acts : List Sight
  status : Option Status
  desktopName : Option String
  deriving DecidableEq

namespace Exchange

def appearance (exchange : Exchange) : Appearance where
  answer := exchange.answer
  acts := exchange.acts.map Notice.sight
  status := exchange.after.viewer.status
  desktopName := exchange.after.viewer.desktopName

/-- All that is seen of an exchange while it goes on, the log among it, and the threshold that it leaves. -/
def journal (exchange : Exchange) : List Sight × Log.Threshold :=
  (exchange.notices.map Notice.sight, exchange.after.threshold)

end Exchange

/-! ### One request -/

section Request

variable {settings other : ViewerSettings} (h : settings.SameAddress other)
include h

theorem Request.answer_eq (page : Page) (request : Request) :
    request.answer other page = request.answer settings page := by
  cases request with
  | load => rw [answer, answer, h.endpoint_eq]
  | report report => rfl

theorem Request.acts_eq (page : Page) (request : Request) :
    (request.acts other page).map Notice.sight = (request.acts settings page).map Notice.sight := by
  cases request with
  | load =>
      rw [acts, acts, h.endpoint_eq, h.hostOn_eq, h.port_eq]
      cases settings.endpoint page <;> rfl
  | report report => cases report <;> rfl

theorem Request.script_eq (hlogging : other.logging = settings.logging) (page : Page) (threshold : Log.Threshold)
    (request : Request) :
    (request.script other page threshold).map (fun line => (line.1, line.2.sight)) =
      (request.script settings page threshold).map fun line => (line.1, line.2.sight) := by
  obtain ⟨hthreshold, hcomplaint⟩ := ViewerSettings.level_congr hlogging
  cases request with
  | load =>
      rw [script, script, h.endpoint_eq, hthreshold, hcomplaint, List.map_append, List.map_append]
      cases settings.endpoint page with
      | ok url => rfl
      | error error => cases error <;> rfl
  | report report =>
      cases report with
      | disconnected clean => cases clean <;> rfl
      | _ => rfl

end Request

theorem sight_delivered (script : List (Log.Threshold × Notice)) :
    (delivered script).map Notice.sight =
      ((script.map fun line => (line.1, line.2.sight)).filter fun line => line.2.passes line.1).map (·.2) := by
  rw [delivered, List.filter_map, List.map_map, List.map_map]
  have hpasses : (fun line : Log.Threshold × Notice => line.2.passes line.1) =
      (fun line => line.2.passes line.1) ∘ fun line => (line.1, line.2.sight) :=
    funext fun line => line.2.passes_eq line.1
  rw [hpasses]
  rfl

namespace Session

/-- Two sessions that look alike: they lead to the same address, show the same status and know the same name. -/
structure Twins (session other : Session) : Prop where
  address : session.viewer.settings.SameAddress other.viewer.settings
  page_eq : other.viewer.page = session.viewer.page
  status_eq : other.viewer.status = session.viewer.status
  desktopName_eq : other.viewer.desktopName = session.viewer.desktopName

/-- Two sessions that log alike too. -/
structure LogTwins (session other : Session) : Prop extends Twins session other where
  logging_eq : other.viewer.settings.logging = session.viewer.settings.logging
  threshold_eq : other.threshold = session.threshold

variable {session other : Session}

theorem Twins.exchange (h : Twins session other) (request : Request) :
    (other.exchange request).appearance = (session.exchange request).appearance ∧
      Twins (session.exchange request).after (other.exchange request).after := by
  have hcourse := course_exchange session request
  have hother := course_exchange other request
  have hanswer : (other.exchange request).answer = (session.exchange request).answer :=
    calc (other.exchange request).answer
        = request.answer other.viewer.settings session.viewer.page := h.page_eq ▸ hother.answered
      _ = request.answer session.viewer.settings session.viewer.page := Request.answer_eq h.address _ request
      _ = (session.exchange request).answer := hcourse.answered.symm
  have hcalled : (request.acts other.viewer.settings other.viewer.page).map Notice.sight =
      (request.acts session.viewer.settings session.viewer.page).map Notice.sight :=
    h.page_eq ▸ Request.acts_eq h.address _ request
  have hacts : (other.exchange request).acts.map Notice.sight = (session.exchange request).acts.map Notice.sight := by
    rw [hother.acts_eq, hcourse.acts_eq]
    exact hcalled
  have hstatus : (other.exchange request).after.viewer.status = (session.exchange request).after.viewer.status := by
    rw [hother.viewer_eq, hcourse.viewer_eq, acted, acted, filterMap_status?, filterMap_status?]
    exact congrArg₂ Option.or (congrArg (fun sights => (sights.filterMap Sight.status?).getLast?) hcalled) h.status_eq
  have hname : (other.exchange request).after.viewer.desktopName =
      (session.exchange request).after.viewer.desktopName := by
    rw [hother.viewer_eq, hcourse.viewer_eq]
    exact congrArg (request.desktopName?.or ·) h.desktopName_eq
  refine ⟨?_, ?_, ?_, hstatus, hname⟩
  · rw [Exchange.appearance, hanswer, hacts, hstatus, hname]
    rfl
  · rw [hother.viewer_eq, hcourse.viewer_eq]
    exact h.address
  · rw [hother.viewer_eq, hcourse.viewer_eq]
    exact h.page_eq

theorem LogTwins.exchange (h : LogTwins session other) (request : Request) :
    (other.exchange request).journal = (session.exchange request).journal ∧
      LogTwins (session.exchange request).after (other.exchange request).after := by
  obtain ⟨hnotices, hthreshold⟩ := session.notices_exchange request
  obtain ⟨hother, hotherThreshold⟩ := other.notices_exchange request
  have hsights : (other.exchange request).notices.map Notice.sight =
      (session.exchange request).notices.map Notice.sight := by
    rw [hother, hnotices, sight_delivered, sight_delivered, h.page_eq, h.threshold_eq,
      Request.script_eq h.address h.logging_eq]
  have hleft : (other.exchange request).after.threshold = (session.exchange request).after.threshold := by
    rw [hotherThreshold, hthreshold, h.threshold_eq]
    cases request with
    | load => exact (ViewerSettings.level_congr h.logging_eq).1
    | report report => rfl
  refine ⟨Prod.ext hsights hleft, (h.toTwins.exchange request).2, ?_, hleft⟩
  rw [(other.settings_exchange request).1, (session.settings_exchange request).1]
  exact h.logging_eq

/-! ### Runs -/

/-- What a relation between sessions makes look alike in one exchange, and passes on, looks alike along a run. -/
theorem map_history {α : Type} {Related : Session → Session → Prop} {view : Exchange → α}
    (step : ∀ session other request, Related session other →
      view (other.exchange request) = view (session.exchange request) ∧
        Related (session.exchange request).after (other.exchange request).after)
    (h : Related session other) (requests : List Request) :
    (other.history requests).map view = (session.history requests).map view := by
  induction requests generalizing session other with
  | nil => rfl
  | cons request rest ih =>
      obtain ⟨hview, hafter⟩ := step session other request h
      rw [history, history, List.map_cons, List.map_cons, hview, ih hafter]

/-- On the same page, settings that lead to the same address cannot be told apart by the answers, the statuses, the
addresses connected to and the desktop's name after any request of any run. If they name the same log level and the
log began with the same threshold, neither can they by the records that it delivers and its thresholds. -/
theorem appearance_along_runs {settings other : ViewerSettings} (h : settings.SameAddress other) (page : Page)
    (threshold otherThreshold : Log.Threshold) (requests : List Request) :
    let history := ({ start settings page with threshold } : Session).history requests
    let otherHistory := ({ start other page with threshold := otherThreshold } : Session).history requests
    otherHistory.map Exchange.appearance = history.map Exchange.appearance ∧
    (other.logging = settings.logging → otherThreshold = threshold →
      otherHistory.map Exchange.journal = history.map Exchange.journal) := by
  intro history otherHistory
  have twins : Twins { start settings page with threshold } { start other page with threshold := otherThreshold } :=
    ⟨h, rfl, rfl, rfl⟩
  refine ⟨map_history (fun _ _ request h => h.exchange request) twins requests, fun hlogging hthreshold => ?_⟩
  have logTwins : LogTwins { start settings page with threshold }
      { start other page with threshold := otherThreshold } := ⟨twins, hlogging, hthreshold⟩
  exact map_history (fun _ _ request h => h.exchange request) logTwins requests

/-- A password, an identifier and a log level are not seen, nor are the two first in the log. -/
theorem appearance_of_password :
    let settings : ViewerSettings := { host := "h" }
    let secret : ViewerSettings := { host := "h", password := "key", repeaterId := "7", viewOnly := true }
    settings.SameAddress { secret with logging := "debug" } ∧
    ((start { secret with logging := "debug" } {}).history [.load, .report .connected]).map Exchange.appearance =
      ((start settings {}).history [.load, .report .connected]).map Exchange.appearance ∧
    settings.SameAddress secret ∧
    ((start secret {}).history [.load, .report .connected]).map Exchange.journal =
      ((start settings {}).history [.load, .report .connected]).map Exchange.journal :=
  have hloud := ⟨rfl, rfl, rfl, rfl, rfl⟩
  have hsecret := ⟨rfl, rfl, rfl, rfl, rfl⟩
  ⟨hloud, (appearance_along_runs hloud {} (.upTo .trace) (.upTo .trace) _).1,
    hsecret, (appearance_along_runs hsecret {} (.upTo .trace) (.upTo .trace) _).2 rfl rfl⟩

end Session

end Viewer

end ScreenKeyboard
