import Mathlib.Data.List.Induction
import ScreenKeyboard.Proofs.Endpoint
import ScreenKeyboard.Viewer.Session

/-!
Runs of a viewer in use. `course_exchange` says once what a single request can do, `history_induction` is the
induction over runs. Along every run the viewer's status is the one that the status line shows, each request
makes the viewer show and connect to what it calls for, and the settings stay as they are (`statuses_along_run`).
-/

namespace ScreenKeyboard.Viewer

/-- The act that is noticed of an effect, whatever the log delivers. -/
def Effect.act? : Effect → Option Notice
  | .show status => some (.shown status)
  | .connect url options => some (.connected url options)
  | .threshold _ | .log _ => none

namespace Notice

def isRecord : Notice → Bool
  | .logged _ => true
  | _ => false

def status? : Notice → Option Status
  | .shown status => some status
  | _ => none

def isConnection : Notice → Bool
  | .connected _ _ => true
  | _ => false

end Notice

namespace Request

def desktopName? : Request → Option String
  | .report (.desktopName name) => some name
  | _ => none

/-- The answer that a request calls for. -/
def answer (settings : ViewerSettings) (page : Page) : Request → Option (Except EndpointError Url)
  | .load => some (settings.endpoint page)
  | .report _ => none

/-- The acts that a request calls for, in order. -/
def acts (settings : ViewerSettings) (page : Page) : Request → List Notice
  | .load =>
    .shown .connecting ::
      match settings.endpoint page with
      | .ok url => [.connected url settings.clientOptions]
      | .error _ => [.shown (if settings.hostOn page = "" ∨ settings.port = 0 then .misconfigured else .error)]
  | .report .connected => [.shown .connected]
  | .report (.disconnected clean) => [.shown (if clean then .disconnected else .error)]
  | .report (.desktopName _) => []

/-- A request calls for one connection if it is a load that finds an address, and for none otherwise. -/
theorem countP_acts (settings : ViewerSettings) (page : Page) (request : Request) :
    (request.acts settings page).countP Notice.isConnection =
      if (request.answer settings page).any Except.isOk then 1 else 0 := by
  cases request with
  | load =>
      rw [acts, answer]
      cases settings.endpoint page <;> rfl
  | report report => cases report <;> rfl

end Request

/-- A request with the session that met it and all that came of it. -/
structure Exchange where
  before : Session
  request : Request
  answer : Option (Except EndpointError Url)
  after : Session
  notices : List Notice

namespace Exchange

/-- What came of the request other than log records. -/
def acts (exchange : Exchange) : List Notice :=
  exchange.notices.filter (!·.isRecord)

/-- Whether the request was a load that found an address. -/
def isLoaded (exchange : Exchange) : Bool :=
  exchange.answer.any Except.isOk

end Exchange

/-- The viewer after what a request calls for: the status shown last is its status. -/
def acted (viewer : Viewer) (request : Request) : Viewer :=
  { viewer with
    status := ((request.acts viewer.settings viewer.page).filterMap Notice.status?).getLast?.or viewer.status
    desktopName := request.desktopName?.or viewer.desktopName }

/-- What a load does besides logging, and the status that it leaves. -/
theorem load_eq (viewer : Viewer) :
    viewer.load.1 = viewer.settings.endpoint viewer.page ∧
    viewer.load.2.2.filterMap Effect.act? = Request.load.acts viewer.settings viewer.page ∧
    viewer.load.2.1 = viewer.acted .load := by
  have hcomplaint : (viewer.settings.levelComplaint.map Effect.log).toList.filterMap Effect.act? = [] := by
    cases viewer.settings.levelComplaint <;> rfl
  have hmissing := viewer.settings.endpoint_eq_missing_iff viewer.page
  cases hendpoint : viewer.settings.endpoint viewer.page with
  | ok url =>
      simp only [load, acted, Request.acts, hendpoint, List.filterMap_append, hcomplaint]
      exact ⟨trivial, rfl, rfl⟩
  | error error =>
      -- what is shown goes by the error, what is called for by the settings
      rw [hendpoint] at hmissing
      cases error with
      | missing =>
          simp only [load, acted, Request.acts, hendpoint, List.filterMap_append, hcomplaint,
            if_pos (hmissing.mp rfl)]
          exact ⟨trivial, rfl, rfl⟩
      | invalid reason =>
          have hfound : ¬(viewer.settings.hostOn viewer.page = "" ∨ viewer.settings.port = 0) :=
            fun h => nomatch hmissing.mpr h
          simp only [load, acted, Request.acts, hendpoint, List.filterMap_append, hcomplaint, if_neg hfound]
          exact ⟨trivial, rfl, rfl⟩

/-- What a report makes the viewer do besides logging, and what it leaves. -/
theorem handle_eq (viewer : Viewer) (report : Report) :
    (viewer.handle report).2.filterMap Effect.act? =
      (Request.report report).acts viewer.settings viewer.page ∧
    (viewer.handle report).1 = viewer.acted (.report report) := by
  cases report with
  | connected => exact ⟨rfl, rfl⟩
  | disconnected clean => cases clean <;> exact ⟨rfl, rfl⟩
  | desktopName name => exact ⟨rfl, rfl⟩

/-- What a request does: it is answered and met as it calls for, and the session keeps count of the acts. -/
structure Exchange.Course (exchange : Exchange) : Prop where
  answered : exchange.answer =
    exchange.request.answer exchange.before.viewer.settings exchange.before.viewer.page
  acts_eq : exchange.acts = exchange.request.acts exchange.before.viewer.settings exchange.before.viewer.page
  viewer_eq : exchange.after.viewer = exchange.before.viewer.acted exchange.request
  shown_eq : exchange.after.shown = exchange.before.shown ++
    (exchange.request.acts exchange.before.viewer.settings exchange.before.viewer.page).filterMap Notice.status?
  connects_eq : exchange.after.connects = exchange.before.connects +
    (exchange.request.acts exchange.before.viewer.settings exchange.before.viewer.page).countP
      Notice.isConnection

namespace Session

def exchange (session : Session) (request : Request) : Exchange where
  before := session
  request := request
  answer := (session.step request).1
  after := (session.step request).2.1
  notices := (session.step request).2.2

/-- The session that a list of requests leads to. -/
def after (session : Session) : List Request → Session
  | [] => session
  | request :: rest => (session.exchange request).after.after rest

/-- The exchanges of a list of requests. -/
def history (session : Session) : List Request → List Exchange
  | [] => []
  | request :: rest => session.exchange request :: (session.exchange request).after.history rest

theorem after_append (session : Session) (first second : List Request) :
    session.after (first ++ second) = (session.after first).after second := by
  induction first generalizing session with
  | nil => rfl
  | cons request rest ih => exact ih _

theorem history_concat (session : Session) (requests : List Request) (request : Request) :
    session.history (requests ++ [request]) =
      session.history requests ++ [(session.after requests).exchange request] := by
  induction requests generalizing session with
  | nil => rfl
  | cons first rest ih => exact congrArg (session.exchange first :: ·) (ih _)

theorem requests_history (session : Session) (requests : List Request) :
    (session.history requests).map Exchange.request = requests := by
  induction requests generalizing session with
  | nil => rfl
  | cons request rest ih => exact congrArg (request :: ·) (ih _)

/-- What holds of a session without a past and is passed on by every request holds along a run. -/
theorem history_induction {P : List Exchange → Session → Prop} {session : Session} (start : P [] session)
    (pass : ∀ past session request, P past session →
      P (past ++ [session.exchange request]) (session.exchange request).after)
    (requests : List Request) : P (session.history requests) (session.after requests) := by
  induction requests using List.reverseRecOn with
  | nil => exact start
  | append_singleton init last ih =>
      rw [history_concat, after_append]
      exact pass _ _ _ ih

/-! ### What a single request does -/

theorem observeAll_viewer (session : Session) (effects : List Effect) :
    (session.observeAll effects).1.viewer = session.viewer := by
  induction effects generalizing session with
  | nil => rfl
  | cons effect rest ih =>
      rw [observeAll, ih]
      cases effect <;> rfl

theorem acts_observe (session : Session) (effect : Effect) :
    (session.observe effect).2.toList.filter (!·.isRecord) = effect.act?.toList := by
  cases effect with
  | log record =>
      rw [observe]
      split_ifs <;> rfl
  | _ => rfl

/-- The log delivers more or less; the acts are noticed in any case. -/
theorem acts_observeAll (session : Session) (effects : List Effect) :
    (session.observeAll effects).2.filter (!·.isRecord) = effects.filterMap Effect.act? := by
  induction effects generalizing session with
  | nil => rfl
  | cons effect rest ih =>
      rw [observeAll, List.filter_append, acts_observe, ih, List.filterMap_cons]
      cases effect.act? <;> rfl

theorem shown_observeAll (session : Session) (effects : List Effect) :
    (session.observeAll effects).1.shown =
      session.shown ++ (effects.filterMap Effect.act?).filterMap Notice.status? := by
  induction effects generalizing session with
  | nil => exact (List.append_nil _).symm
  | cons effect rest ih =>
      rw [observeAll, ih]
      cases effect with
      | «show» status => exact List.append_assoc ..
      | _ => rfl

theorem connects_observeAll (session : Session) (effects : List Effect) :
    (session.observeAll effects).1.connects =
      session.connects + (effects.filterMap Effect.act?).countP Notice.isConnection := by
  induction effects generalizing session with
  | nil => rfl
  | cons effect rest ih =>
      rw [observeAll, ih]
      cases effect with
      | connect url options =>
          simp only [observe, Effect.act?, List.filterMap_cons, List.countP_cons, Notice.isConnection, if_true]
          omega
      | _ => rfl

theorem course_of_effects {session : Session} {request : Request} {viewer : Viewer} {effects : List Effect}
    (hstep : session.step request = (request.answer session.viewer.settings session.viewer.page,
      { session with viewer }.observeAll effects))
    (hacts : effects.filterMap Effect.act? = request.acts session.viewer.settings session.viewer.page)
    (hviewer : viewer = session.viewer.acted request) : (session.exchange request).Course := by
  refine ⟨?_, ?_, ?_, ?_, ?_⟩ <;> simp only [exchange, Exchange.acts, hstep]
  · rw [acts_observeAll, hacts]
  · rw [observeAll_viewer, hviewer]
  · rw [shown_observeAll, hacts]
  · rw [connects_observeAll, hacts]

/-- Every request takes its course. -/
theorem course_exchange (session : Session) (request : Request) : (session.exchange request).Course := by
  cases request with
  | load =>
      obtain ⟨hresult, hacts, hviewer⟩ := load_eq session.viewer
      exact course_of_effects (congrArg (some ·, _) hresult) hacts hviewer
  | report report =>
      obtain ⟨hacts, hviewer⟩ := handle_eq session.viewer report
      exact course_of_effects rfl hacts hviewer

/-! ### Runs -/

/-- A session that began with these settings on this page, after a history. -/
structure Followed (settings : ViewerSettings) (page : Page) (history : List Exchange) (session : Session) :
    Prop where
  settings_eq : session.viewer.settings = settings
  page_eq : session.viewer.page = page
  shown_eq : session.shown = (history.flatMap Exchange.acts).filterMap Notice.status?
  status_eq : session.viewer.status = session.shown.getLast?
  connects_eq : session.connects = history.countP Exchange.isLoaded
  desktopName_eq : session.viewer.desktopName =
    ((history.map Exchange.request).filterMap Request.desktopName?).getLast?
  called : ∀ exchange ∈ history,
    exchange.answer = exchange.request.answer settings page ∧ exchange.acts = exchange.request.acts settings page

variable {settings : ViewerSettings} {page : Page}

theorem followed_start (settings : ViewerSettings) (page : Page) (threshold : Log.Threshold) :
    Followed settings page [] { start settings page with threshold } where
  settings_eq := rfl
  page_eq := rfl
  shown_eq := rfl
  status_eq := rfl
  connects_eq := rfl
  desktopName_eq := rfl
  called := by simp

theorem followed_exchange {past : List Exchange} {session : Session} (request : Request)
    (h : Followed settings page past session) :
    Followed settings page (past ++ [session.exchange request]) (session.exchange request).after := by
  have course := course_exchange session request
  have hanswer : (session.exchange request).answer = request.answer settings page := by
    rw [← h.settings_eq, ← h.page_eq]
    exact course.answered
  have hacts : (session.exchange request).acts = request.acts settings page := by
    rw [← h.settings_eq, ← h.page_eq]
    exact course.acts_eq
  have hshown : (session.exchange request).after.shown =
      session.shown ++ (request.acts settings page).filterMap Notice.status? := by
    rw [← h.settings_eq, ← h.page_eq]
    exact course.shown_eq
  constructor
  case settings_eq =>
    rw [course.viewer_eq]
    exact h.settings_eq
  case page_eq =>
    rw [course.viewer_eq]
    exact h.page_eq
  case shown_eq =>
    rw [hshown, h.shown_eq, List.flatMap_append, List.flatMap_singleton, hacts, List.filterMap_append]
  case status_eq =>
    rw [hshown, course.viewer_eq, List.getLast?_append, ← h.status_eq, ← h.settings_eq, ← h.page_eq]
    rfl
  case connects_eq =>
    have hconnects := course.connects_eq
    rw [Request.countP_acts, ← course.answered] at hconnects
    rw [hconnects, List.countP_append, List.countP_singleton, ← h.connects_eq]
    rfl
  case desktopName_eq =>
    rw [course.viewer_eq, List.map_append, List.filterMap_append, List.getLast?_append, ← h.desktopName_eq]
    cases request with
    | load => rfl
    | report report => cases report <;> rfl
  case called =>
    intro exchange hmem
    rcases List.mem_append.mp hmem with hpast | hlast
    · exact h.called exchange hpast
    · rw [List.mem_singleton.mp hlast]
      exact ⟨hanswer, hacts⟩

/-- Along every run the status of the viewer is the one that the status line shows, the name is the one that was
given last, and settings and page stay as they are. A load shows that it connects; then it makes the client
connect to the endpoint that it answers, or shows why there is none. A report is shown, if it is about the
connection. The client is told to connect by no other request. -/
theorem statuses_along_run (settings : ViewerSettings) (page : Page) (threshold : Log.Threshold)
    (requests : List Request) :
    let session : Session := { start settings page with threshold }
    let history := session.history requests
    let last := session.after requests
    last.shown = (history.flatMap Exchange.acts).filterMap Notice.status? ∧
    last.viewer.status = last.shown.getLast? ∧
    last.connects = history.countP Exchange.isLoaded ∧
    last.viewer.desktopName = (requests.filterMap Request.desktopName?).getLast? ∧
    last.viewer.settings = settings ∧ last.viewer.page = page ∧
    history.map Exchange.request = requests ∧
    ∀ exchange ∈ history,
      exchange.answer = exchange.request.answer settings page ∧
      exchange.acts = exchange.request.acts settings page := by
  intro session history last
  have h : Followed settings page history last :=
    history_induction (followed_start settings page threshold) (fun _ _ => followed_exchange) requests
  have hrequests : history.map Exchange.request = requests := requests_history session requests
  exact ⟨h.shown_eq, h.status_eq, h.connects_eq, hrequests ▸ h.desktopName_eq, h.settings_eq, h.page_eq, hrequests,
    h.called⟩

example :
    let last := (start { host := "h" } {}).after
      [.report .connected, .load, .report (.disconnected false), .report (.desktopName "d"), .load]
    last.shown = [.connected, .connecting, .error, .connecting] ∧ last.connects = 2 := by
  decide +kernel

end Session

end ScreenKeyboard.Viewer
