import ScreenKeyboard.Proofs.Listeners

/-!
Which fields are written along a run. Requests and their answers alone say which slots are bound and which
field listens (`Ledger`); the keyboard, which keeps listeners of its own, never writes another field and
never writes anything but what was typed (`fields_along_run`).
-/

namespace ScreenKeyboard

/-- What happens to a field after it was made. -/
inductive Field.Touch
  /-- The keyboard gives it a value. -/
  | written (value : String)
  /-- The host changes its text. -/
  | edited (text : String)
  deriving DecidableEq, Repr

def Field.Touch.value? : Field.Touch → Option String
  | written value => some value
  | edited _ => none

def Field.touch (field : Field) : Field.Touch → Field
  | .written value => field.write value
  | .edited text => { field with text }

def Listener.slot? : Listener → Option Nat
  | caller _ => none
  | field slot => some slot

namespace Keyboard

def Notice.written? : Notice → Option String
  | .wrote _ value => some value
  | _ => none

/-- The slots of those fields that opt in; the first of the fields gets the slot `start`. -/
def slotsFrom (start : Nat) (fields : List Field) : List Nat :=
  ((fields.zipIdx start).filter (·.1.optsIn)).map (·.2)

/-- The slots that were bound, in the order of their ids, and the slot of the field that is written when a
key types, if a field is. -/
structure Ledger where
  bound : List Nat
  listening : Option Nat
  deriving DecidableEq, Repr

namespace Exchange

/-- The ids that were given. -/
def ids (exchange : Exchange) : List Nat :=
  match exchange.answer with
  | .bound ids => ids
  | _ => []

/-- The value that was typed. -/
def typed? (exchange : Exchange) : Option String :=
  match exchange.answer with
  | .pressed (.ok (.typed value)) => some value
  | _ => none

/-- The fields that were made. -/
def made (exchange : Exchange) : List Field :=
  match exchange.request with
  | .bind fields => fields
  | _ => []

/-- The slots to be bound: of the fields that the request names, those that opt in. -/
def bindings (exchange : Exchange) : List Nat :=
  match exchange.request with
  | .bind fields => slotsFrom exchange.before.fields.length fields
  | .rebind name =>
    (exchange.before.slotOf? name).toList.filter fun slot => exchange.before.fields[slot]?.any (·.optsIn)
  | _ => []

/-- What happened to the field in a slot, if it is known which field listened. -/
def touch? (listening : Option Nat) (slot : Nat) (exchange : Exchange) : Option Field.Touch :=
  match exchange.typed? with
  | some value => if listening = some slot then some (.written value) else none
  | none =>
    match exchange.request with
    | .edit name text => if exchange.before.slotOf? name = some slot then some (.edited text) else none
    | _ => none

/-- The values that the field in a slot was given: the values noticed, if its count of writes went up. -/
def received (slot : Nat) (exchange : Exchange) : List String :=
  if exchange.after.fields[slot]?.map (·.writes) = exchange.before.fields[slot]?.map (·.writes) then []
  else exchange.notices.filterMap Notice.written?

end Exchange

/-- Opening the keyboard ends the writing of fields, focusing a field begins it. If the keyboard forgets its
listeners, closing ends it too. -/
def Ledger.enter (forgetful : Bool) (ledger : Ledger) (exchange : Exchange) : Ledger where
  bound := ledger.bound ++ exchange.bindings
  listening :=
    match exchange.answer, exchange.request with
    | .done, .open _ _ _ => none
    | .done, .focus id => ledger.bound[id]?
    | .done, .close => if forgetful then none else ledger.listening
    | .pressed (.ok .dismissed), _ => if forgetful then none else ledger.listening
    | _, _ => ledger.listening

/-- The ledger of a history. -/
def ledger (forgetful : Bool) (history : List Exchange) : Ledger :=
  history.foldl (Ledger.enter forgetful) ⟨[], none⟩

/-- What happened to the field in a slot in exchanges that began with this ledger. -/
def touches (forgetful : Bool) (slot : Nat) (ledger : Ledger) : List Exchange → List Field.Touch
  | [] => []
  | exchange :: rest =>
    (exchange.touch? ledger.listening slot).toList ++ touches forgetful slot (ledger.enter forgetful exchange) rest

theorem ledger_concat (forgetful : Bool) (past : List Exchange) (exchange : Exchange) :
    ledger forgetful (past ++ [exchange]) = (ledger forgetful past).enter forgetful exchange := by
  rw [ledger, List.foldl_append]
  rfl

theorem touches_concat (forgetful : Bool) (slot : Nat) (start : Ledger) (past : List Exchange) (exchange : Exchange) :
    touches forgetful slot start (past ++ [exchange]) = touches forgetful slot start past ++
      (exchange.touch? (past.foldl (Ledger.enter forgetful) start).listening slot).toList := by
  induction past generalizing start with
  | nil => exact List.append_nil _
  | cons first rest ih => rw [List.cons_append, touches, ih, touches, List.append_assoc, List.foldl_cons]

theorem ledger_bound (forgetful : Bool) (history : List Exchange) :
    (ledger forgetful history).bound = history.flatMap Exchange.bindings := by
  induction history using List.reverseRecOn with
  | nil => rfl
  | append_singleton past exchange ih =>
      rw [ledger_concat, Ledger.enter, ih, List.flatMap_append, List.flatMap_singleton]

/-! ### Binding -/

theorem slotsFrom_cons (start : Nat) (field : Field) (rest : List Field) :
    slotsFrom start (field :: rest) =
      (if field.optsIn then [start] else []) ++ slotsFrom (start + 1) rest := by
  rw [slotsFrom, List.zipIdx_cons, List.filter_cons]
  split_ifs <;> rfl

theorem mem_slotsFrom {start slot : Nat} {fields : List Field} (h : slot ∈ slotsFrom start fields) :
    slot < start + fields.length := by
  obtain ⟨⟨field, position⟩, hmem, rfl⟩ := List.mem_map.mp h
  exact (List.mem_zipIdx (List.mem_filter.mp hmem).1).2.1

namespace Session

theorem bindSlot_eq (session : Session) (slot : Nat) :
    session.bindSlot slot =
      if session.fields[slot]?.any (·.optsIn) then
        ([session.keyboard.bound.length],
          { session with keyboard := { session.keyboard with bound := session.keyboard.bound ++ [slot] } })
      else ([], session) := rfl

theorem bindAll_eq (session : Session) (fields : List Field) :
    session.bindAll fields =
      (List.range' session.keyboard.bound.length (slotsFrom session.fields.length fields).length,
        { session with
          fields := session.fields ++ fields
          keyboard := { session.keyboard with
            bound := session.keyboard.bound ++ slotsFrom session.fields.length fields } }) := by
  induction fields generalizing session with
  | nil => simp [bindAll, slotsFrom]
  | cons field rest ih =>
      have hfield : (session.fields ++ [field])[session.fields.length]? = some field := by simp
      rw [bindAll, bindSlot_eq, slotsFrom_cons]
      simp only [hfield, Option.any_some]
      split_ifs with hopts
      · simp [ih, List.range'_succ]
      · simp [ih]

theorem slotOf?_lt {session : Session} {name : String} {slot : Nat} (h : session.slotOf? name = some slot) :
    slot < session.fields.length := by
  obtain ⟨position, hfound, rfl⟩ := Option.map_eq_some_iff.mp h
  have hposition := (List.findIdx?_eq_some_iff_getElem.mp hfound).1
  rw [List.length_reverse] at hposition
  omega

/-- The ledger that a session keeps itself. -/
def ledger (session : Session) : Ledger where
  bound := session.keyboard.bound
  listening := session.keyboard.onInput.bind Listener.slot?

end Session

/-! ### One exchange -/

namespace Exchange

/-- An exchange in which ids were given, fields were changed and values were written as the ledger says. -/
structure Handled (exchange : Exchange) : Prop where
  ids_eq : exchange.ids = List.range' exchange.before.keyboard.bound.length exchange.bindings.length
  bindings_lt : ∀ slot ∈ exchange.bindings, slot < (exchange.before.fields ++ exchange.made).length
  ledger_eq : exchange.after.ledger = exchange.before.ledger.enter exchange.before.keyboard.forgetful exchange
  fields_eq : exchange.after.fields = (exchange.before.fields ++ exchange.made).mapIdx fun slot field =>
    (exchange.touch? exchange.before.ledger.listening slot).elim field field.touch
  written_eq : exchange.notices.filterMap Notice.written? =
    if exchange.before.ledger.listening.isSome then exchange.typed?.toList else []
  untyped_or_unmade : exchange.typed? = none ∨ exchange.made = []

variable {exchange : Exchange}

theorem mapIdx_untouched {touch? : Nat → Option Field.Touch} (h : ∀ slot, touch? slot = none)
    (fields : List Field) :
    fields.mapIdx (fun slot field => (touch? slot).elim field field.touch) = fields := by
  refine List.ext_getElem? fun slot => ?_
  simp [h]

/-- An exchange that binds nothing, makes nothing and touches no field. -/
theorem Handled.of_untouched (hids : exchange.ids = []) (hbindings : exchange.bindings = [])
    (hmade : exchange.made = []) (htyped : exchange.typed? = none)
    (huntouched : ∀ listening slot, exchange.touch? listening slot = none)
    (hledger : exchange.after.ledger = exchange.before.ledger.enter exchange.before.keyboard.forgetful exchange)
    (hfields : exchange.after.fields = exchange.before.fields)
    (hwritten : exchange.notices.filterMap Notice.written? = []) : exchange.Handled where
  ids_eq := by rw [hids, hbindings]; rfl
  bindings_lt := by simp [hbindings]
  ledger_eq := hledger
  fields_eq := by rw [hfields, hmade, List.append_nil, mapIdx_untouched (huntouched _)]
  written_eq := by rw [hwritten, htyped, Option.toList_none, ite_self]
  untyped_or_unmade := Or.inl htyped

end Exchange

theorem filterMap_written? (notices : List Notice) :
    notices.filterMap Notice.written? = (notices.filter Notice.isCall).filterMap Notice.written? := by
  rw [List.filterMap_filter]
  refine congrArg (notices.filterMap ·) (funext fun notice => ?_)
  cases notice <;> rfl

namespace Session

theorem advance_uncalled (session : Session) {outcome : Keyboard × List Event}
    (h : outcome.2.filter Event.isCall = []) :
    (session.advance outcome).1.fields = session.fields ∧
      (session.advance outcome).2.filterMap Notice.written? = [] := by
  obtain ⟨hcalls, hfields⟩ := session.advance_calls outcome
  rw [h] at hcalls hfields
  refine ⟨hfields, ?_⟩
  rw [filterMap_written?, hcalls]
  rfl

theorem open_uncalled (keyboard : Keyboard) (value : String) (onInput : Option Listener) (onClose : Option String) :
    (keyboard.open value onInput onClose).2.filter Event.isCall = [] := by
  cases hvisible : keyboard.visible <;> simp [Keyboard.open, hvisible, Event.isCall]

/-- Opening the keyboard, for a caller or for a field, touches no field. -/
theorem advanceOpening_uncalled (session : Session) (value : String) (onInput : Option Listener)
    (onClose : Option String) :
    let opened := session.advanceOpening (session.keyboard.open value onInput onClose)
    opened.1.keyboard = { session.keyboard with value, visible := true, onInput, onClose } ∧
      opened.1.fields = session.fields ∧ opened.2.filterMap Notice.written? = [] :=
  ⟨advanceOpening_keyboard _ _, advance_uncalled _ (open_uncalled _ _ _ _)⟩

theorem actuate_bound (keyboard : Keyboard) (index : Nat) (key : Key) :
    (keyboard.actuate index key).2.1.bound = keyboard.bound := by
  cases hrole : key.role <;> simp only [actuate, hrole] <;> rfl

/-- The ledger of the session that a press leaves. -/
theorem ledger_pressed (session : Session) (index : Nat) (key : Key) :
    (session.advance (session.keyboard.pressing index key)).1.ledger =
      { session.ledger with
        listening :=
          if session.keyboard.forgetful && (session.keyboard.actuate index key).1 = .dismissed then none
          else session.ledger.listening } := by
  have hlisteners := congrArg Prod.fst (actuate_listeners session.keyboard index key)
  rw [ledger, advance_keyboard, pressing, actuate_bound]
  refine congrArg (Ledger.mk session.keyboard.bound) ?_
  simp only at hlisteners
  rw [hlisteners]
  split_ifs <;> rfl

/-- What is written and left of the fields when the input listener is told a value. -/
theorem told_eq (session : Session) (value : String) :
    session.fieldsTold value session.keyboard.onInput =
        (session.fields.mapIdx fun slot field =>
          (if session.ledger.listening = some slot then some (.written value) else none).elim field field.touch) ∧
      (session.keyboard.onInput.map (session.hearing value)).toList.filterMap Notice.written? =
        if session.ledger.listening.isSome then [value] else [] := by
  rcases honInput : session.keyboard.onInput with _ | name | slot
  all_goals
    simp only [ledger, honInput]
    refine ⟨List.ext_getElem? fun other => ?_, rfl⟩
  · simp [fieldsTold]
  · simp [fieldsTold, Listener.slot?]
  · by_cases hslot : slot = other
    · subst hslot
      simp [fieldsTold, Listener.slot?, Field.touch]
    · simp [fieldsTold, Listener.slot?, hslot]

/-- A request that leaves the session as it is and tells nobody. -/
theorem handled_of_still {session : Session} {request : Request} {answer : Answer}
    (hstep : session.step request = (answer, session, [])) (hids : (session.exchange request).ids = [])
    (hbindings : (session.exchange request).bindings = []) (hmade : (session.exchange request).made = [])
    (htyped : (session.exchange request).typed? = none)
    (huntouched : ∀ listening slot, (session.exchange request).touch? listening slot = none)
    (hlistening : (session.ledger.enter session.keyboard.forgetful (session.exchange request)).listening =
      session.ledger.listening) : (session.exchange request).Handled := by
  have hleft : (session.exchange request).after = session ∧ (session.exchange request).notices = [] :=
    Prod.mk.inj (congrArg Prod.snd hstep)
  refine .of_untouched hids hbindings hmade htyped huntouched ?_ (by rw [hleft.1]; rfl) (by rw [hleft.2]; rfl)
  have hbound : (session.ledger.enter session.keyboard.forgetful (session.exchange request)).bound =
      session.ledger.bound := by
    rw [Ledger.enter, hbindings, List.append_nil]
  calc (session.exchange request).after.ledger
      = ⟨session.ledger.bound, session.ledger.listening⟩ := by rw [hleft.1]
    _ = session.ledger.enter session.keyboard.forgetful (session.exchange request) := by
        rw [← hbound, ← hlistening]

section Press

variable {session : Session} {request : Request} {index : Nat} {key : Key}
  (hstep : session.step request = (.pressed (.ok (session.keyboard.actuate index key).1),
    session.advance (session.keyboard.pressing index key)))
  (hbindings : (session.exchange request).bindings = []) (hmade : (session.exchange request).made = [])
include hstep hbindings hmade

theorem handled_of_dismissed (houtcome : (session.keyboard.actuate index key).1 = .dismissed)
    (huntouched : ∀ listening slot, (session.exchange request).touch? listening slot = none) :
    (session.exchange request).Handled := by
  rw [houtcome] at hstep
  have hanswer : (session.exchange request).answer = .pressed (.ok .dismissed) := congrArg Prod.fst hstep
  obtain ⟨hafter, hnotices⟩ : (session.exchange request).after = _ ∧ (session.exchange request).notices = _ :=
    Prod.mk.inj (congrArg Prod.snd hstep)
  obtain ⟨hcalls, hfields⟩ := session.press_calls houtcome
  refine .of_untouched (by rw [Exchange.ids, hanswer]) hbindings hmade (by rw [Exchange.typed?, hanswer])
    huntouched ?_ ?_ ?_
  · rw [hafter, ledger_pressed, houtcome, Ledger.enter, hbindings, List.append_nil, hanswer]
    simp only [decide_true, Bool.and_true]
    rfl
  · rw [hafter, hfields]
    cases session.keyboard.onClose <;> rfl
  · rw [hnotices, filterMap_written?, hcalls]
    cases session.keyboard.onClose <;> rfl

theorem handled_of_typed {value : String} (houtcome : (session.keyboard.actuate index key).1 = .typed value)
    (htouch : ∀ listening slot, (session.exchange request).touch? listening slot =
      if listening = some slot then some (.written value) else none) :
    (session.exchange request).Handled := by
  rw [houtcome] at hstep
  have hanswer : (session.exchange request).answer = .pressed (.ok (.typed value)) := congrArg Prod.fst hstep
  obtain ⟨hafter, hnotices⟩ : (session.exchange request).after = _ ∧ (session.exchange request).notices = _ :=
    Prod.mk.inj (congrArg Prod.snd hstep)
  obtain ⟨hcalls, hfields⟩ := session.press_calls houtcome
  obtain ⟨hheard, htold⟩ := session.observeAll_input value session.keyboard.onInput
  obtain ⟨hfieldsTold, hwritten⟩ := session.told_eq value
  refine ⟨by rw [Exchange.ids, hanswer, hbindings]; rfl, by simp [hbindings], ?_, ?_, ?_, Or.inr hmade⟩
  · rw [hafter, ledger_pressed, houtcome, Ledger.enter, hbindings, List.append_nil, hanswer]
    simp only [reduceCtorEq, decide_false, Bool.and_false, Bool.false_eq_true, if_false]
    rfl
  · rw [hafter, hfields, Outcome.calls, htold, hfieldsTold, hmade, List.append_nil]
    simp only [htouch]
    rfl
  · rw [hnotices, filterMap_written?, hcalls, Outcome.calls, hheard, hwritten, Exchange.typed?, hanswer]
    rfl

end Press

/-- A request to press a key, whatever becomes of it. -/
theorem handled_of_press {session : Session} {request : Request} {index : Nat}
    (hstep : session.step request = (.pressed (session.pressWith (session.keyboard.press index)).1,
      (session.pressWith (session.keyboard.press index)).2))
    (hbindings : (session.exchange request).bindings = []) (hmade : (session.exchange request).made = [])
    (htouch : ∀ listening slot, (session.exchange request).touch? listening slot =
      (session.exchange request).typed?.bind fun value =>
        if listening = some slot then some (.written value) else none) :
    (session.exchange request).Handled := by
  cases found : session.keyboard.layout.key? index with
  | none =>
      rw [press_missing found] at hstep
      have hanswer : (session.exchange request).answer = .pressed (.error (.noSuchKey index)) :=
        congrArg Prod.fst hstep
      have htyped : (session.exchange request).typed? = none := by rw [Exchange.typed?, hanswer]
      exact handled_of_still hstep (by rw [Exchange.ids, hanswer]) hbindings hmade htyped
        (fun _ _ => by rw [htouch, htyped]; rfl) (by rw [Ledger.enter, hanswer])
  | some key =>
      rw [press_found found] at hstep
      have hanswer : (session.exchange request).answer =
        .pressed (.ok (session.keyboard.actuate index key).1) := congrArg Prod.fst hstep
      cases houtcome : (session.keyboard.actuate index key).1 with
      | dismissed =>
          have htyped : (session.exchange request).typed? = none := by rw [Exchange.typed?, hanswer, houtcome]
          exact handled_of_dismissed hstep hbindings hmade houtcome fun _ _ => by rw [htouch, htyped]; rfl
      | typed value =>
          have htyped : (session.exchange request).typed? = some value := by
            rw [Exchange.typed?, hanswer, houtcome]
          exact handled_of_typed hstep hbindings hmade houtcome fun _ _ => by rw [htouch, htyped]; rfl

/-! ### Every request -/

theorem handled_open (session : Session) (value : String) (onInput onClose : Option String) :
    (session.exchange (.open value onInput onClose)).Handled := by
  obtain ⟨hkeyboard, hfields, hwritten⟩ :=
    session.advanceOpening_uncalled value (onInput.map .caller) onClose
  refine .of_untouched rfl rfl rfl rfl (fun _ _ => rfl) ?_ hfields hwritten
  show Session.ledger (session.advanceOpening _).1 = _
  rw [ledger, hkeyboard, Ledger.enter, Exchange.bindings]
  cases onInput <;> simp [Listener.slot?, ledger, exchange, step]

theorem handled_close (session : Session) : (session.exchange .close).Handled := by
  have huncalled : session.keyboard.close.2.filter Event.isCall = [] := rfl
  obtain ⟨hfields, hwritten⟩ := session.advance_uncalled huncalled
  refine .of_untouched rfl rfl rfl rfl (fun _ _ => rfl) ?_ hfields hwritten
  show Session.ledger (session.advance session.keyboard.close).1 = _
  rw [ledger, advance_keyboard, Ledger.enter, Exchange.bindings]
  cases hforgetful : session.keyboard.forgetful <;>
    simp [Keyboard.close, hforgetful, ledger, exchange, step]

theorem handled_pressLabel (session : Session) (label : String) :
    (session.exchange (.pressLabel label)).Handled := by
  have htouch : ∀ listening slot, (session.exchange (.pressLabel label)).touch? listening slot =
      (session.exchange (.pressLabel label)).typed?.bind fun value =>
        if listening = some slot then some (.written value) else none := by
    intro listening slot
    rw [Exchange.touch?]
    cases (session.exchange (.pressLabel label)).typed? <;> rfl
  cases named : session.keyboard.layout.indexOf? label with
  | none =>
      have hstep : session.step (.pressLabel label) = (.pressed (.error (.noSuchLabel label)), session, []) := by
        rw [step, Keyboard.pressLabel, named]
        rfl
      have htyped : (session.exchange (.pressLabel label)).typed? = none := by
        rw [Exchange.typed?, exchange, hstep]
      exact handled_of_still hstep (by rw [Exchange.ids, exchange, hstep]) rfl rfl htyped
        (fun _ _ => by rw [htouch, htyped]; rfl) (by rw [Ledger.enter, exchange, hstep])
  | some index => exact handled_of_press (by rw [step, Keyboard.pressLabel, named]) rfl rfl htouch

theorem handled_bind (session : Session) (fields : List Field) : (session.exchange (.bind fields)).Handled := by
  have hstep : session.step (.bind fields) = (.bound (session.bindAll fields).1, (session.bindAll fields).2, []) :=
    rfl
  rw [bindAll_eq] at hstep
  have htyped : (session.exchange (.bind fields)).typed? = none := rfl
  refine ⟨by rw [Exchange.ids, exchange, hstep]; rfl, ?_, ?_, ?_, ?_, Or.inl htyped⟩
  · intro slot hslot
    exact Nat.lt_of_lt_of_eq (mem_slotsFrom hslot) List.length_append.symm
  · rw [exchange, hstep]
    rfl
  · rw [Exchange.mapIdx_untouched fun slot => by rw [Exchange.touch?, htyped]; rfl, exchange, hstep]
    rfl
  · rw [htyped, exchange, hstep, Option.toList_none, ite_self]
    rfl

theorem handled_rebind (session : Session) (name : String) : (session.exchange (.rebind name)).Handled := by
  cases found : session.slotOf? name with
  | none =>
      have hstep : session.step (.rebind name) = (.bound [], session, []) := by
        rw [step, found]
      exact handled_of_still hstep (by rw [Exchange.ids, exchange, hstep])
        (by simp only [Exchange.bindings, exchange, found]; rfl) rfl (by rw [Exchange.typed?, exchange, hstep])
        (fun _ _ => by rw [Exchange.touch?, Exchange.typed?, exchange, hstep])
        (by rw [Ledger.enter, exchange, hstep])
  | some slot =>
      have hstep : session.step (.rebind name) =
          (.bound (session.bindSlot slot).1, (session.bindSlot slot).2, []) := by
        rw [step, found]
      have htyped : (session.exchange (.rebind name)).typed? = none := by
        rw [Exchange.typed?, exchange, hstep]
      have hbindings : (session.exchange (.rebind name)).bindings =
          if session.fields[slot]?.any (·.optsIn) then [slot] else [] := by
        simp only [Exchange.bindings, exchange, found, Option.toList_some]
        split_ifs with hopts <;> simp [hopts]
      have huntouched : ∀ listening other, (session.exchange (.rebind name)).touch? listening other = none :=
        fun _ _ => by rw [Exchange.touch?, htyped]; rfl
      rw [bindSlot_eq] at hstep
      split_ifs at hstep hbindings with hopts
      · refine ⟨by rw [hbindings, Exchange.ids, exchange, hstep]; rfl, ?_, ?_, ?_, ?_, Or.inl htyped⟩
        · rw [hbindings]
          intro other hother
          obtain rfl := List.mem_singleton.mp hother
          exact Nat.lt_of_lt_of_eq (slotOf?_lt found) (congrArg _ (List.append_nil _).symm)
        · rw [Ledger.enter, hbindings, exchange, hstep]
          rfl
        · rw [Exchange.mapIdx_untouched (huntouched _), exchange, hstep]
          exact (List.append_nil _).symm
        · rw [htyped, exchange, hstep, Option.toList_none, ite_self]
          rfl
      · exact handled_of_still hstep (by rw [Exchange.ids, exchange, hstep]) hbindings rfl htyped
          huntouched (by rw [Ledger.enter, exchange, hstep])

theorem step_focus_unbound {session : Session} {id : Nat} (h : session.keyboard.bound[id]? = none) :
    session.step (.focus id) = (.refused (.noSuchField id), session, []) := by
  rw [step, Keyboard.focus, h]

theorem step_focus_bound {session : Session} {id slot : Nat} (h : session.keyboard.bound[id]? = some slot) :
    session.step (.focus id) = (.done, session.advanceOpening
      (session.keyboard.open (session.textOf slot) (some (.field slot)) none)) := by
  rw [step, Keyboard.focus, h]

theorem handled_focus (session : Session) (id : Nat) : (session.exchange (.focus id)).Handled := by
  cases found : session.keyboard.bound[id]? with
  | none =>
      have hstep := step_focus_unbound found
      exact handled_of_still hstep (by rw [Exchange.ids, exchange, hstep]) rfl rfl
        (by rw [Exchange.typed?, exchange, hstep])
        (fun _ _ => by rw [Exchange.touch?, Exchange.typed?, exchange, hstep])
        (by rw [Ledger.enter, exchange, hstep])
  | some slot =>
      have hstep := step_focus_bound found
      obtain ⟨hkeyboard, hfields, hwritten⟩ :=
        session.advanceOpening_uncalled (session.textOf slot) (some (.field slot)) none
      refine .of_untouched (by rw [Exchange.ids, exchange, hstep]) rfl rfl
        (by rw [Exchange.typed?, exchange, hstep])
        (fun _ _ => by rw [Exchange.touch?, Exchange.typed?, exchange, hstep])
        ?_ (by rw [exchange, hstep]; exact hfields) (by rw [exchange, hstep]; exact hwritten)
      rw [Ledger.enter, exchange, hstep]
      simp [ledger, hkeyboard, found, Listener.slot?, Exchange.bindings]

theorem handled_edit (session : Session) (name text : String) :
    (session.exchange (.edit name text)).Handled := by
  cases found : session.slotOf? name with
  | none =>
      have hstep : session.step (.edit name text) = (.done, session, []) := by
        rw [step, found]
      have htyped : (session.exchange (.edit name text)).typed? = none := by
        rw [Exchange.typed?, exchange, hstep]
      refine handled_of_still hstep (by rw [Exchange.ids, exchange, hstep]) rfl rfl htyped
        (fun listening slot => ?_) (by rw [Ledger.enter, exchange, hstep])
      rw [Exchange.touch?, htyped]
      exact if_neg (by rw [show (session.exchange (.edit name text)).before.slotOf? name = none from found]; simp)
  | some slot =>
      have hstep : session.step (.edit name text) = (.done,
          { session with
            fields := session.fields.modify slot fun field => { field with text } }, []) := by
        rw [step, found]
      have htyped : (session.exchange (.edit name text)).typed? = none := by
        rw [Exchange.typed?, exchange, hstep]
      refine ⟨by rw [Exchange.ids, exchange, hstep]; rfl, by simp [Exchange.bindings, exchange], ?_, ?_, ?_,
        Or.inl htyped⟩
      · rw [Ledger.enter, exchange, hstep]
        simp [ledger, Exchange.bindings]
      · refine List.ext_getElem? fun other => ?_
        simp only [Exchange.touch?, htyped]
        rw [exchange, hstep]
        by_cases hslot : slot = other
        · subst hslot
          simp [found, Exchange.made, Field.touch]
        · simp [found, hslot, Exchange.made]
      · rw [htyped, exchange, hstep, Option.toList_none, ite_self]
        rfl

/-- Whatever is requested, the ledger says what becomes of the fields. -/
theorem handled_exchange (session : Session) {request : Request} (single : request.isSingle = true) :
    (session.exchange request).Handled := by
  cases request with
  | type labels => exact absurd single Bool.false_ne_true
  | «open» value onInput onClose => exact session.handled_open value onInput onClose
  | close => exact session.handled_close
  | press index =>
      refine handled_of_press rfl rfl rfl fun listening slot => ?_
      rw [Exchange.touch?]
      cases (session.exchange (.press index)).typed? <;> rfl
  | pressLabel label => exact session.handled_pressLabel label
  | bind fields => exact session.handled_bind fields
  | rebind name => exact session.handled_rebind name
  | focus id => exact session.handled_focus id
  | edit name text => exact session.handled_edit name text
  | blankDisplay =>
      refine .of_untouched rfl rfl rfl rfl (fun _ _ => rfl) ?_ rfl rfl
      rw [Ledger.enter, Exchange.bindings]
      simp [exchange, step, ledger]

end Session

/-! ### Runs -/

namespace Exchange

variable {exchange : Exchange} {slot : Nat}

/-- Of what happens to a field, only what is typed while it listens is given to it. -/
theorem filterMap_touch? (listening : Option Nat) (slot : Nat) (exchange : Exchange) :
    (exchange.touch? listening slot).toList.filterMap Field.Touch.value? =
      if listening = some slot then exchange.typed?.toList else [] := by
  rw [touch?]
  cases exchange.typed? with
  | some value =>
      simp only
      split_ifs <;> rfl
  | none =>
      rw [Option.toList_none, ite_self]
      simp only
      split
      · split_ifs <;> rfl
      · rfl

theorem move_of_typed? {value : String} (h : exchange.typed? = some value) :
    exchange.move = .press (.typed value) := by
  unfold typed? at h
  split at h
  · next hanswer =>
      obtain rfl := Option.some.inj h
      rw [move, hanswer]
  · cases h

theorem Handled.received_eq (h : exchange.Handled)
    (hlistening : ∀ slot, exchange.before.ledger.listening = some slot → slot < exchange.before.fields.length)
    (slot : Nat) :
    exchange.received slot =
      if exchange.before.ledger.listening = some slot then exchange.typed?.toList else [] := by
  have hleft : exchange.after.fields[slot]? = ((exchange.before.fields ++ exchange.made)[slot]?).map fun field =>
      (exchange.touch? exchange.before.ledger.listening slot).elim field field.touch := by
    rw [h.fields_eq, List.getElem?_mapIdx]
  rw [received, h.written_eq]
  cases htyped : exchange.typed? with
  | none => simp
  | some value =>
      have hmade := h.untyped_or_unmade.resolve_left (by simp [htyped])
      have htouch : exchange.touch? exchange.before.ledger.listening slot =
          if exchange.before.ledger.listening = some slot then some (.written value) else none := by
        rw [touch?, htyped]
      rw [hmade, List.append_nil, htouch] at hleft
      by_cases hslot : exchange.before.ledger.listening = some slot
      · rw [List.getElem?_eq_getElem (hlistening slot hslot)] at hleft ⊢
        simp [hleft, hslot, Field.touch, Field.write]
      · simp [hleft, hslot]

end Exchange

theorem Ledger.enter_listening {forgetful : Bool} {ledger : Ledger} {exchange : Exchange} {slot : Nat}
    (h : (ledger.enter forgetful exchange).listening = some slot) :
    slot ∈ ledger.bound ∨ ledger.listening = some slot := by
  have released : ∀ {listening : Option Nat}, (if forgetful then none else listening) = some slot →
      listening = some slot := by
    cases forgetful <;> simp
  unfold Ledger.enter at h
  simp only at h
  split at h
  · cases h
  · exact Or.inl (List.mem_of_getElem? h)
  · exact Or.inr (released h)
  · exact Or.inr (released h)
  · exact Or.inr h

namespace Session

/-- A session that keeps the ledger of its past, with the fields that were made in it and touched since. -/
structure Kept (forgetful : Bool) (past : List Exchange) (session : Session) : Prop where
  ledger_eq : session.ledger = Keyboard.ledger forgetful past
  fields_eq : session.fields = (past.flatMap Exchange.made).mapIdx fun slot field =>
    (touches forgetful slot ⟨[], none⟩ past).foldl Field.touch field
  bound_lt : ∀ slot ∈ session.ledger.bound, slot < session.fields.length
  listening_lt : ∀ slot, session.ledger.listening = some slot → slot < session.fields.length
  /-- Nothing happens to a field before it is made. -/
  unmade : ∀ slot, session.fields.length ≤ slot → touches forgetful slot ⟨[], none⟩ past = []
  received_eq : ∀ slot, past.flatMap (Exchange.received slot) =
    (touches forgetful slot ⟨[], none⟩ past).filterMap Field.Touch.value?
  ids_eq : past.flatMap Exchange.ids = List.range session.ledger.bound.length

theorem kept_start (layout : Layout) (forgetful : Bool) : Kept forgetful [] (start layout forgetful).1 where
  ledger_eq := rfl
  fields_eq := rfl
  bound_lt := by simp [start, ledger, ofLayout]
  listening_lt := by simp [start, ledger, ofLayout]
  unmade := fun _ _ => rfl
  received_eq := fun _ => rfl
  ids_eq := rfl

theorem touch?_lt {session : Session} {request : Request} {slot : Nat}
    (hlistening : ∀ slot, session.ledger.listening = some slot → slot < session.fields.length)
    (h : (session.exchange request).touch? session.ledger.listening slot ≠ none) :
    slot < session.fields.length := by
  unfold Exchange.touch? at h
  split at h
  · exact hlistening slot (by by_contra hslot; exact h (if_neg hslot))
  · split at h
    · exact slotOf?_lt (by by_contra hslot; exact h (if_neg hslot))
    · exact absurd rfl h

/-- Fields that are touched once more, and with them new ones, which nothing has touched before. -/
theorem touched_again {old new : List Field} {earlier : Nat → List Field.Touch} (now : Nat → Option Field.Touch)
    (hnew : ∀ slot, old.length ≤ slot → earlier slot = []) :
    ((old.mapIdx fun slot field => (earlier slot).foldl Field.touch field) ++ new).mapIdx
        (fun slot field => (now slot).elim field field.touch) =
      (old ++ new).mapIdx fun slot field => (earlier slot ++ (now slot).toList).foldl Field.touch field := by
  have huntouched : new.mapIdx (fun slot field => (earlier (slot + old.length)).foldl Field.touch field) = new := by
    refine List.ext_getElem? fun slot => ?_
    simp [hnew]
  have hjoined : (old.mapIdx fun slot field => (earlier slot).foldl Field.touch field) ++ new =
      (old ++ new).mapIdx fun slot field => (earlier slot).foldl Field.touch field := by
    rw [List.mapIdx_append, huntouched]
  rw [hjoined, List.mapIdx_mapIdx]
  refine congrArg (List.mapIdx · _) (funext fun slot => funext fun field => ?_)
  rw [List.foldl_append]
  cases now slot <;> rfl

theorem kept_exchange {forgetful : Bool} (past : List Exchange) (session : Session) (request : Request)
    (single : request.isSingle = true) (hforgetful : session.keyboard.forgetful = forgetful)
    (h : Kept forgetful past session) :
    Kept forgetful (past ++ [session.exchange request]) (session.exchange request).after := by
  obtain ⟨hledger, hfields, hbound, hlistening, hunmade, hreceived, hids⟩ := h
  have hexchange := handled_exchange session single
  have htouches : ∀ slot, touches forgetful slot ⟨[], none⟩ (past ++ [session.exchange request]) =
      touches forgetful slot ⟨[], none⟩ past ++
        ((session.exchange request).touch? session.ledger.listening slot).toList := by
    intro slot
    rw [touches_concat, hledger]
    rfl
  have hlength : (session.exchange request).after.fields.length =
      session.fields.length + (session.exchange request).made.length := by
    rw [hexchange.fields_eq, List.length_mapIdx, List.length_append]
    rfl
  have hentered := hexchange.ledger_eq
  rw [show (session.exchange request).before = session from rfl, hforgetful] at hentered
  refine
    { ledger_eq := ?ledger
      fields_eq := ?fields
      bound_lt := ?bound
      listening_lt := ?listening
      unmade := ?unmade
      received_eq := ?received
      ids_eq := ?ids }
  case ledger => rw [hentered, hledger, ledger_concat]
  case fields =>
    have hcount : (past.flatMap Exchange.made).length = session.fields.length := by
      rw [hfields, List.length_mapIdx]
    rw [hexchange.fields_eq, show (session.exchange request).before.fields = session.fields from rfl, hfields,
      touched_again _ fun slot hslot => hunmade slot (hcount ▸ hslot), List.flatMap_append,
      List.flatMap_singleton]
    simp only [htouches]
    rfl
  case bound =>
    rw [hentered, hlength]
    intro slot hslot
    rcases List.mem_append.mp hslot with hold | hnew
    · exact Nat.lt_add_right _ (hbound slot hold)
    · have hlt := hexchange.bindings_lt slot hnew
      rwa [List.length_append] at hlt
  case listening =>
    rw [hentered, hlength]
    intro slot hslot
    rcases Ledger.enter_listening hslot with hfocused | hkept
    · exact Nat.lt_add_right _ (hbound slot hfocused)
    · exact Nat.lt_add_right _ (hlistening slot hkept)
  case unmade =>
    rw [hlength]
    intro slot hslot
    have hle : session.fields.length ≤ slot := Nat.le_of_add_right_le hslot
    have hnone : (session.exchange request).touch? session.ledger.listening slot = none := by
      by_contra htouched
      exact absurd (touch?_lt hlistening htouched) (Nat.not_lt.mpr hle)
    rw [htouches, hunmade slot hle, hnone]
    rfl
  case received =>
    intro slot
    rw [htouches, List.flatMap_append, List.flatMap_singleton, List.filterMap_append, hreceived,
      hexchange.received_eq hlistening]
    exact congrArg (_ ++ ·) (Exchange.filterMap_touch? _ _ _).symm
  case ids =>
    have hcount : (session.exchange request).after.ledger.bound.length =
        session.ledger.bound.length + (session.exchange request).bindings.length := by
      rw [hentered, Ledger.enter, List.length_append]
    have hjoined := List.range'_append_1 (s := 0) (m := session.ledger.bound.length)
      (n := (session.exchange request).bindings.length)
    rw [Nat.zero_add] at hjoined
    rw [List.flatMap_append, List.flatMap_singleton, hids, hexchange.ids_eq, hcount, List.range_eq_range',
      List.range_eq_range', ← hjoined]
    rfl

/-- Focusing a bound field opens the keyboard with the text that the field has then; another focus is
refused. -/
theorem focus_exchange (session : Session) (id : Nat)
    (hbound : ∀ slot ∈ session.ledger.bound, slot < session.fields.length) :
    let exchange := session.exchange (.focus id)
    (exchange.answer = .done ↔ id < session.ledger.bound.length) ∧
    (∀ slot, session.ledger.bound[id]? = some slot →
      ∃ field, session.fields[slot]? = some field ∧
        exchange.after.fields = session.fields ∧
        exchange.after.keyboard = { session.keyboard with
          value := field.text
          visible := true
          onInput := some (.field slot)
          onClose := none }) ∧
    (session.ledger.bound.length ≤ id →
      exchange.answer = .refused (.noSuchField id) ∧ exchange.after = session ∧ exchange.notices = []) := by
  cases found : session.ledger.bound[id]? with
  | some slot =>
      have hsmall : id < session.ledger.bound.length := (List.getElem?_eq_some_iff.mp found).1
      have hstep := step_focus_bound found
      obtain ⟨hkeyboard, hfields, -⟩ :=
        session.advanceOpening_uncalled (session.textOf slot) (some (.field slot)) none
      have hfield := List.getElem?_eq_getElem (hbound slot (List.mem_of_getElem? found))
      refine ⟨iff_of_true (congrArg Prod.fst hstep) hsmall, ?_,
        fun hlarge => absurd hsmall (Nat.not_lt.mpr hlarge)⟩
      intro other hother
      obtain rfl := Option.some.inj hother
      refine ⟨_, hfield, ?_, ?_⟩
      · rw [exchange, hstep]
        exact hfields
      · rw [exchange, hstep, hkeyboard, textOf, hfield]
        rfl
  | none =>
      have hlarge : session.ledger.bound.length ≤ id := List.getElem?_eq_none_iff.mp found
      have hstep := step_focus_unbound found
      have hanswer : (session.exchange (.focus id)).answer = .refused (.noSuchField id) := congrArg Prod.fst hstep
      refine ⟨iff_of_false ?_ (Nat.not_lt.mpr hlarge), ?_, fun _ => ?_⟩
      · rw [hanswer]
        exact Answer.noConfusion
      · intro slot hslot
        cases hslot
      · exact ⟨hanswer, Prod.mk.inj (congrArg Prod.snd hstep)⟩

/-- A value is typed exactly by the presses that are not refused and not of done. -/
theorem isSome_typed? {layout : Layout} {exchange : Exchange} (course : exchange.Course)
    (hlayout : exchange.before.keyboard.layout = layout) :
    exchange.typed?.isSome = (exchange.pressed? layout).any (·.role ≠ .done) := by
  cases hpressed : exchange.pressed? layout with
  | some key =>
      by_cases hrole : key.role = .done
      · rw [Exchange.typed?, (calls_of_done course hlayout hpressed hrole).1]
        simp [hrole]
      · obtain ⟨value, hanswer, -⟩ := calls_of_typing course hlayout hpressed hrole
        rw [Exchange.typed?, hanswer]
        simp [hrole]
  | none =>
      cases htyped : exchange.typed? with
      | none => rfl
      | some value =>
          have hmove := Exchange.move_of_typed? htyped
          cases course with
          | press index key named found =>
              rw [Exchange.pressed?_of_move hmove hlayout named found] at hpressed
              cases hpressed
          | «open» value onInput onClose moved => simp [moved] at hmove
          | close moved => simp [moved] at hmove
          | rest moved => simp [moved] at hmove

/-- Along every run, ids are given in the order in which the fields that opt in are bound, and a focus opens
the keyboard with the text of the field bound under that id, or is refused if there is none. What is typed
while a field listens is given to that field and to no other, and nothing else ever is: so a field is as it
was made, but for the values typed into it and the texts that the host gave it. -/
theorem fields_along_run (layout : Layout) (forgetful : Bool) (requests : List Request) :
    let session := (start layout forgetful).1
    let history := session.history requests
    let touched := fun slot => touches forgetful slot ⟨[], none⟩ history
    history.flatMap Exchange.ids = List.range (history.flatMap Exchange.bindings).length ∧
    (session.after requests).fields = (history.flatMap Exchange.made).mapIdx
      (fun slot field => (touched slot).foldl Field.touch field) ∧
    (∀ slot, history.flatMap (Exchange.received slot) = (touched slot).filterMap Field.Touch.value?) ∧
    ∀ past exchange future, history = past ++ exchange :: future →
      let known := Keyboard.ledger forgetful past
      exchange.ids = List.range' known.bound.length exchange.bindings.length ∧
      (∀ slot, exchange.received slot = if known.listening = some slot then exchange.typed?.toList else []) ∧
      (exchange.typed?.isSome = (exchange.pressed? layout).any (·.role ≠ .done)) ∧
      ∀ id, exchange.request = .focus id →
        (exchange.answer = .done ↔ id < known.bound.length) ∧
        (∀ slot, known.bound[id]? = some slot →
          ∃ field, exchange.before.fields[slot]? = some field ∧
            exchange.after.fields = exchange.before.fields ∧
            exchange.after.keyboard = { exchange.before.keyboard with
              value := field.text
              visible := true
              onInput := some (.field slot)
              onClose := none }) ∧
        (known.bound.length ≤ id →
          exchange.answer = .refused (.noSuchField id) ∧ exchange.after = exchange.before ∧
            exchange.notices = []) := by
  intro session history touched
  have pass : ∀ past session request, request.isSingle = true →
      (Tended layout forgetful past session.keyboard ∧ Kept forgetful past session) →
        Tended layout forgetful (past ++ [session.exchange request])
            (session.exchange request).after.keyboard ∧
          Kept forgetful (past ++ [session.exchange request]) (session.exchange request).after :=
    fun past session request single h =>
      ⟨tended_exchange past session request single h.1,
        kept_exchange past session request single h.1.forgetful_eq h.2⟩
  have hstart := And.intro (tended_start layout forgetful) (kept_start layout forgetful)
  obtain ⟨-, hlast⟩ := history_induction
    (P := fun past session => Tended layout forgetful past session.keyboard ∧ Kept forgetful past session)
    hstart pass requests
  refine ⟨?_, hlast.fields_eq, hlast.received_eq, ?_⟩
  · rw [hlast.ids_eq, hlast.ledger_eq, ledger_bound]
  · intro past exchange future hrun known
    obtain ⟨⟨htended, hkept⟩, course, -⟩ := holds_around
      (P := fun past session => Tended layout forgetful past session.keyboard ∧ Kept forgetful past session)
      hstart pass hrun
    obtain ⟨before, request, single, rfl⟩ := exists_of_mem_history (hrun ▸ List.mem_append_cons_self)
    have hhandled := before.handled_exchange single
    have hknown : before.ledger = known := hkept.ledger_eq
    rw [← hknown]
    refine ⟨hhandled.ids_eq, hhandled.received_eq hkept.listening_lt, ?_, ?_⟩
    · exact isSome_typed? course htended.layout_eq
    · intro id hrequest
      obtain rfl : request = .focus id := hrequest
      exact before.focus_exchange id hkept.bound_lt

-- the first field is bound under two ids, the second appends what it is given
example :
    let requests := [.bind [.ofText "host" "x" true false, .ofText "note" "y" true true], .rebind "host",
      .focus 2, .pressLabel "q", .focus 1, .pressLabel "w"]
    ((start Layout.qwerty false).1.after requests).fields.map (·.text) = ["q", "yw"] := by
  decide +kernel

end Session

end Keyboard

end ScreenKeyboard
