import ScreenKeyboard.Proofs.Viewing

/-!
What the log delivers along a run of a viewer. A load changes the threshold between its first record and its others,
so a request calls for notices together with the thresholds that judge them (`Request.script`). The records that are
delivered are those of the script that their thresholds admit, in the order of the script (`records_along_run`).
-/

namespace ScreenKeyboard

/-- Of a text, that it is what another text is without the characters of a class at both ends. -/
structure Text.Trimmed (inClass : Char → Bool) (whole text : List Char) : Prop where
  cut : ∃ front back, whole = front ++ text ++ back ∧ ∀ c ∈ front ++ back, inClass c = true
  begins : ∀ c ∈ text.head?, inClass c = false
  ends : ∀ c ∈ text.getLast?, inClass c = false

theorem Text.not_head?_dropWhile {inClass : Char → Bool} {text : List Char} :
    ∀ c ∈ (text.dropWhile inClass).head?, inClass c = false := by
  intro c hc
  have hhead := List.head?_dropWhile_not inClass text
  rw [Option.mem_def.mp hc] at hhead
  exact hhead

theorem Text.trimmed_trim (inClass : Char → Bool) (whole : List Char) :
    Trimmed inClass whole (trim inClass whole) := by
  -- what is left at the front, before the back is cut
  generalize hrest : whole.dropWhile inClass = rest
  have hwhole : whole.takeWhile inClass ++ rest = whole := hrest ▸ List.takeWhile_append_dropWhile
  have hcut : trim inClass whole ++ (rest.reverse.takeWhile inClass).reverse = rest := by
    rw [trim, hrest, ← List.reverse_append, List.takeWhile_append_dropWhile, List.reverse_reverse]
  refine ⟨⟨whole.takeWhile inClass, (rest.reverse.takeWhile inClass).reverse, ?_, ?_⟩, ?_, ?_⟩
  · rw [List.append_assoc, hcut, hwhole]
  · intro c hc
    rcases List.mem_append.mp hc with hfront | hback
    · exact List.mem_takeWhile_imp hfront
    · exact List.mem_takeWhile_imp (List.mem_reverse.mp hback)
  · intro c hc
    have hfirst : c ∈ (whole.dropWhile inClass).head? := by
      rw [hrest, ← hcut, List.head?_append, Option.mem_def.mp hc]
      rfl
    exact not_head?_dropWhile c hfirst
  · intro c hc
    rw [trim, List.getLast?_reverse] at hc
    exact not_head?_dropWhile c hc

/-- The name in the settings names the threshold; names that mean nothing stand for warnings. -/
theorem ViewerSettings.threshold_eq (settings : ViewerSettings) :
    settings.threshold =
      match settings.levelName with
      | "debug" => .upTo .debug
      | "info" => .upTo .info
      | "warn" => .upTo .warn
      | "error" => .upTo .error
      | "none" | "off" => .off
      | _ => .upTo .warn := by
  rw [threshold]
  generalize settings.levelName = name
  split
  case h_7 hdebug hinfo hwarn herror hnone hoff =>
    have hmissing : Viewer.levels.lookup name = none :=
      List.lookup_eq_none_iff.mpr (by simpa [Viewer.levels] using ⟨hdebug, hinfo, hwarn, herror, hnone, hoff⟩)
    rw [hmissing, Option.getD_none]
  all_goals rfl

theorem ViewerSettings.levelComplaint_eq (settings : ViewerSettings) :
    settings.levelComplaint =
      if settings.levelName ∈ ["debug", "info", "warn", "error", "none", "off"] then none
      else some (.unknownLevel settings.levelName) := by
  rw [levelComplaint]
  generalize settings.levelName = name
  refine ite_congr (propext ?_) (fun _ => rfl) (fun _ => rfl)
  rw [List.lookup_isSome_iff]
  simp [Viewer.levels]

namespace Viewer

/-- Whether a notice gets through: a log record does if the threshold admits it, anything else does. -/
def Notice.passes (threshold : Log.Threshold) : Notice → Bool
  | .logged record => threshold.admits record.severity
  | _ => true

/-- Of notices with the thresholds in force when they come about, those that get through. -/
def delivered (script : List (Log.Threshold × Notice)) : List Notice :=
  (script.filter fun line => line.2.passes line.1).map (·.2)

namespace Request

/-- What a request calls for, in order, each notice with the threshold in force when it comes about. -/
def script (settings : ViewerSettings) (page : Page) (threshold : Log.Threshold) :
    Request → List (Log.Threshold × Notice)
  | .load =>
    (settings.levelComplaint.map fun complaint => (threshold, .logged complaint)).toList ++
      (settings.threshold, .shown .connecting) ::
        match settings.endpoint page with
        | .ok url =>
          [(settings.threshold, .logged (.connecting url)),
            (settings.threshold, .connected url settings.clientOptions)]
        | .error .missing =>
          [(settings.threshold, .logged .noEndpoint), (settings.threshold, .shown .misconfigured)]
        | .error error =>
          [(settings.threshold, .logged (.rejected error)), (settings.threshold, .shown .error)]
  | .report .connected => [(threshold, .shown .connected)]
  | .report (.disconnected true) => [(threshold, .shown .disconnected)]
  | .report (.disconnected false) => [(threshold, .logged .dropped), (threshold, .shown .error)]
  | .report (.desktopName name) => [(threshold, .logged (.desktopName name))]

/-- The threshold that a request leaves. -/
def thresholdLeft (settings : ViewerSettings) (threshold : Log.Threshold) : Request → Log.Threshold
  | .load => settings.threshold
  | .report _ => threshold

end Request

/-- What the requests of a run call for, one after the other. -/
def script (settings : ViewerSettings) (page : Page) (threshold : Log.Threshold) :
    List Request → List (Log.Threshold × Notice)
  | [] => []
  | request :: rest =>
    request.script settings page threshold ++ script settings page (request.thresholdLeft settings threshold) rest

/-! ### Effects -/

/-- The notices of a list of effects, each with the threshold in force when it comes about. -/
def staged (threshold : Log.Threshold) : List Effect → List (Log.Threshold × Notice)
  | [] => []
  | .threshold next :: rest => staged next rest
  | .show status :: rest => (threshold, .shown status) :: staged threshold rest
  | .connect url options :: rest => (threshold, .connected url options) :: staged threshold rest
  | .log record :: rest => (threshold, .logged record) :: staged threshold rest

/-- The threshold that a list of effects leaves. -/
def thresholdAfter (threshold : Log.Threshold) : List Effect → Log.Threshold
  | [] => threshold
  | .threshold next :: rest => thresholdAfter next rest
  | .show _ :: rest => thresholdAfter threshold rest
  | .connect _ _ :: rest => thresholdAfter threshold rest
  | .log _ :: rest => thresholdAfter threshold rest

theorem delivered_append (first second : List (Log.Threshold × Notice)) :
    delivered (first ++ second) = delivered first ++ delivered second := by
  rw [delivered, List.filter_append, List.map_append]
  rfl

theorem delivered_cons (threshold : Log.Threshold) (notice : Notice) (rest : List (Log.Threshold × Notice)) :
    delivered ((threshold, notice) :: rest) =
      (if notice.passes threshold then [notice] else []) ++ delivered rest := by
  rw [delivered, List.filter_cons]
  split_ifs <;> rfl

theorem Session.observeAll_cons (session : Session) (effect : Effect) (rest : List Effect) :
    session.observeAll (effect :: rest) =
      (((session.observe effect).1.observeAll rest).1,
        (session.observe effect).2.toList ++ ((session.observe effect).1.observeAll rest).2) := rfl

theorem Session.observeAll_delivered (session : Session) (effects : List Effect) :
    (session.observeAll effects).2 = delivered (staged session.threshold effects) ∧
      (session.observeAll effects).1.threshold = thresholdAfter session.threshold effects := by
  induction effects generalizing session with
  | nil => exact ⟨rfl, rfl⟩
  | cons effect rest ih =>
      obtain ⟨hnotices, hthreshold⟩ := ih (session.observe effect).1
      rw [observeAll_cons, hnotices, hthreshold]
      cases effect with
      | log record =>
          refine ⟨?_, rfl⟩
          have hrecord : (session.observe (.log record)).2.toList =
              if session.threshold.admits record.severity then [.logged record] else [] := by
            rw [observe]
            split_ifs <;> rfl
          rw [staged, delivered_cons, hrecord]
          rfl
      | _ => exact ⟨rfl, rfl⟩

theorem staged_append (threshold : Log.Threshold) (first second : List Effect) :
    staged threshold (first ++ second) =
      staged threshold first ++ staged (thresholdAfter threshold first) second := by
  induction first generalizing threshold with
  | nil => rfl
  | cons effect rest ih =>
      cases effect with
      | threshold next => exact ih next
      | _ => exact congrArg (_ :: ·) (ih threshold)

theorem thresholdAfter_append (threshold : Log.Threshold) (first second : List Effect) :
    thresholdAfter threshold (first ++ second) = thresholdAfter (thresholdAfter threshold first) second := by
  induction first generalizing threshold with
  | nil => rfl
  | cons effect rest ih =>
      cases effect with
      | threshold next => exact ih next
      | _ => exact ih threshold

theorem staged_load (viewer : Viewer) (threshold : Log.Threshold) :
    staged threshold viewer.load.2.2 = Request.load.script viewer.settings viewer.page threshold ∧
      thresholdAfter threshold viewer.load.2.2 = viewer.settings.threshold := by
  have hcomplaint : staged threshold (viewer.settings.levelComplaint.map Effect.log).toList =
      (viewer.settings.levelComplaint.map fun complaint => (threshold, Notice.logged complaint)).toList := by
    cases viewer.settings.levelComplaint <;> rfl
  cases hendpoint : viewer.settings.endpoint viewer.page with
  | ok url =>
      simp only [load, Request.script, hendpoint, List.append_assoc, List.cons_append, List.nil_append,
        staged_append, thresholdAfter_append, hcomplaint, staged, thresholdAfter, and_self]
  | error error =>
      cases error <;>
        simp only [load, Request.script, hendpoint, List.append_assoc, List.cons_append, List.nil_append,
          staged_append, thresholdAfter_append, hcomplaint, staged, thresholdAfter, and_self]

theorem staged_handle (viewer : Viewer) (report : Report) (threshold : Log.Threshold) :
    staged threshold (viewer.handle report).2 =
        (Request.report report).script viewer.settings viewer.page threshold ∧
      thresholdAfter threshold (viewer.handle report).2 = threshold := by
  cases report with
  | disconnected clean => cases clean <;> exact ⟨rfl, rfl⟩
  | _ => exact ⟨rfl, rfl⟩

namespace Session

/-! ### Runs -/

/-- A request is noticed as its script says, and only a load changes the threshold. -/
theorem notices_exchange (session : Session) (request : Request) :
    (session.exchange request).notices =
        delivered (request.script session.viewer.settings session.viewer.page session.threshold) ∧
      (session.exchange request).after.threshold =
        request.thresholdLeft session.viewer.settings session.threshold := by
  cases request with
  | load =>
      obtain ⟨hscript, hthreshold⟩ := staged_load session.viewer session.threshold
      obtain ⟨hnotices, hleft⟩ :=
        observeAll_delivered { session with viewer := session.viewer.load.2.1 } session.viewer.load.2.2
      exact ⟨hnotices.trans (congrArg delivered hscript), hleft.trans hthreshold⟩
  | report report =>
      obtain ⟨hscript, hthreshold⟩ := staged_handle session.viewer report session.threshold
      obtain ⟨hnotices, hleft⟩ :=
        observeAll_delivered { session with viewer := (session.viewer.handle report).1 }
          (session.viewer.handle report).2
      exact ⟨hnotices.trans (congrArg delivered hscript), hleft.trans hthreshold⟩

theorem settings_exchange (session : Session) (request : Request) :
    (session.exchange request).after.viewer.settings = session.viewer.settings ∧
      (session.exchange request).after.viewer.page = session.viewer.page := by
  rw [(course_exchange session request).viewer_eq]
  exact ⟨rfl, rfl⟩

theorem notices_history (session : Session) (requests : List Request) :
    (session.history requests).flatMap Exchange.notices =
        delivered (script session.viewer.settings session.viewer.page session.threshold requests) ∧
      (session.after requests).threshold =
        if .load ∈ requests then session.viewer.settings.threshold else session.threshold := by
  induction requests generalizing session with
  | nil => exact ⟨rfl, rfl⟩
  | cons request rest ih =>
      obtain ⟨hnotices, hthreshold⟩ := session.notices_exchange request
      obtain ⟨hsettings, hpage⟩ := session.settings_exchange request
      obtain ⟨hrest, hleft⟩ := ih (session.exchange request).after
      rw [hsettings, hthreshold] at hrest hleft
      rw [hpage] at hrest
      rw [history, List.flatMap_cons, hnotices, hrest, script, delivered_append, after, hleft]
      refine ⟨rfl, ?_⟩
      cases request with
      | load => simp [Request.thresholdLeft]
      | report report => simp [Request.thresholdLeft]

theorem settings_after (settings : ViewerSettings) (page : Page) (threshold : Log.Threshold)
    (requests : List Request) :
    (({ start settings page with threshold } : Session).after requests).viewer.settings = settings ∧
      (({ start settings page with threshold } : Session).after requests).viewer.page = page := by
  have h := history_induction (followed_start settings page threshold) (fun _ _ => followed_exchange) requests
  exact ⟨h.settings_eq, h.page_eq⟩

/-- Along every run, the records that the log delivers are those of the script that the thresholds in force admit, in
their place among what else is noticed. A load puts the threshold of the settings in force, whether it finds an
address or not; until then, and so for the complaint about the name of the level, the former threshold decides. -/
theorem records_along_run (settings : ViewerSettings) (page : Page) (threshold : Log.Threshold)
    (requests : List Request) :
    let session : Session := { start settings page with threshold }
    let last := session.after requests
    (∃ text name, Text.Trimmed Text.isWhiteSpace settings.logging.toList text ∧
      name = String.ofList (text.map Char.toLower) ∧
      settings.threshold =
        (match name with
        | "debug" => .upTo .debug
        | "info" => .upTo .info
        | "warn" => .upTo .warn
        | "error" => .upTo .error
        | "none" | "off" => .off
        | _ => .upTo .warn) ∧
      settings.levelComplaint =
        if name ∈ ["debug", "info", "warn", "error", "none", "off"] then none else some (.unknownLevel name)) ∧
    (session.history requests).flatMap Exchange.notices = delivered (script settings page threshold requests) ∧
    last.threshold = (if .load ∈ requests then settings.threshold else threshold) ∧
    ∀ request,
      (last.exchange request).notices = delivered (request.script settings page last.threshold) ∧
      (last.exchange request).after.threshold = request.thresholdLeft settings last.threshold := by
  intro session last
  obtain ⟨hsettings, hpage⟩ := settings_after settings page threshold requests
  refine ⟨⟨_, settings.levelName, Text.trimmed_trim _ _, rfl, settings.threshold_eq, settings.levelComplaint_eq⟩,
    ?_, ?_, ?_⟩
  · exact (session.notices_history requests).1
  · exact (session.notices_history requests).2
  · intro request
    have h := last.notices_exchange request
    rw [hsettings, hpage] at h
    exact h

-- the log is off until the load, so of its two warnings the second alone is delivered
example :
    let session : Session := { start { logging := "Loud" } {} with threshold := .off }
    (session.exchange .load).notices = [.shown .connecting, .logged .noEndpoint, .shown .misconfigured] := by
  decide

end Session

end Viewer

end ScreenKeyboard
