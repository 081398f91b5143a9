import ScreenKeyboard.Proofs.History

/-!
Who is called along a run. The listeners of a keyboard are those of the latest opening, unless the keyboard
forgets them when it closes and has closed since (`Latest`). A press that types calls the input listener
once, a press of done calls the close listener once after everything is hidden, and nothing else calls
anybody (`listeners_along_run`); so a listener that was replaced or released is never called again.
-/

namespace ScreenKeyboard

/-- Whether an event calls a listener. -/
def Event.isCall : Event → Bool
  | .input _ _ => true
  | .closed _ => true
  | _ => false

/-- The calls that a press with this outcome makes when these listeners are installed. -/
def Outcome.calls (onInput : Option Listener) (onClose : Option String) : Outcome → List Event
  | typed value => (onInput.map (Event.input · value)).toList
  | dismissed => (onClose.map Event.closed).toList

namespace Keyboard

def Notice.isCall : Notice → Bool
  | .heard _ _ _ => true
  | .dismissed _ _ => true
  | .wrote _ _ => true
  | _ => false

namespace Exchange

/-- The input and the close listener that an exchange installed, if it opened the keyboard. -/
def handed? (exchange : Exchange) : Option (Option Listener × Option String) :=
  match exchange.move with
  | .open _ onInput onClose => some (onInput, onClose)
  | _ => none

/-- Whether an exchange closed the keyboard, by request or by a press of done. -/
def closes (exchange : Exchange) : Bool :=
  match exchange.move with
  | .press .dismissed => true
  | .close => true
  | _ => false

theorem closes_of_press {exchange : Exchange} {outcome : Outcome} (moved : exchange.move = .press outcome) :
    exchange.closes = decide (outcome = .dismissed) := by
  rw [closes, moved]
  cases outcome <;> rfl

end Exchange

theorem exists_last_handed {past : List Exchange} (h : ¬∀ exchange ∈ past, exchange.handed? = none) :
    ∃ earlier opening since given, past = earlier ++ opening :: since ∧ opening.handed? = some given ∧
      ∀ later ∈ since, later.handed? = none := by
  induction past using List.reverseRecOn with
  | nil => exact absurd (fun exchange hmem => absurd hmem List.not_mem_nil) h
  | append_singleton init last ih =>
      cases hlast : last.handed? with
      | some given => exact ⟨init, last, [], given, rfl, hlast, by simp⟩
      | none =>
          have hinit : ¬∀ exchange ∈ init, exchange.handed? = none := by
            intro hinit
            refine h fun exchange hmem => ?_
            rcases List.mem_append.mp hmem with hearlier | hnow
            · exact hinit exchange hearlier
            · rw [List.mem_singleton.mp hnow, hlast]
          obtain ⟨earlier, opening, since, given, hpast, hopening, hsince⟩ := ih hinit
          refine ⟨earlier, opening, since ++ [last], given, by rw [hpast]; simp, hopening, ?_⟩
          intro later hlater
          rcases List.mem_append.mp hlater with hearlier | hnow
          · exact hsince later hearlier
          · rw [List.mem_singleton.mp hnow, hlast]

/-- Of the listeners, that they are those of the latest opening in a history, or none if there was no opening
or if the keyboard forgets its listeners and was closed since. -/
structure Latest (forgetful : Bool) (past : List Exchange) (listeners : Option Listener × Option String) :
    Prop where
  never : (∀ exchange ∈ past, exchange.handed? = none) → listeners = (none, none)
  latest : ∀ earlier opening since given, past = earlier ++ opening :: since →
    opening.handed? = some given → (∀ exchange ∈ since, exchange.handed? = none) →
      listeners = if forgetful && since.any Exchange.closes then (none, none) else given

namespace Latest

variable {forgetful : Bool} {past : List Exchange} {exchange : Exchange}
  {given listeners : Option Listener × Option String}

theorem nil : Latest forgetful [] (none, none) where
  never := fun _ => rfl
  latest := by simp

theorem opened (handed : exchange.handed? = some given) : Latest forgetful (past ++ [exchange]) given where
  never := by
    intro h
    have hexchange := h exchange (by simp)
    rw [handed] at hexchange
    cases hexchange
  latest := by
    intro earlier opening since other hpast hopening hsince
    rcases concat_eq_append_cons hpast with ⟨rfl, -, rfl⟩ | ⟨between, rfl, -⟩
    · rw [handed] at hopening
      cases hopening
      rw [List.any_nil, Bool.and_false, if_neg Bool.false_ne_true]
    · have hexchange := hsince exchange (by simp)
      rw [handed] at hexchange
      cases hexchange

theorem kept (h : Latest forgetful past listeners) (exchange : Exchange)
    (unhanded : exchange.handed? = none) :
    Latest forgetful (past ++ [exchange])
      (if forgetful && exchange.closes then (none, none) else listeners) where
  never := by
    intro hnever
    rw [h.never fun exchange hmem => hnever exchange (List.mem_append_left _ hmem), ite_self]
  latest := by
    intro earlier opening since given hpast hopening hsince
    rcases concat_eq_append_cons hpast with ⟨rfl, -, rfl⟩ | ⟨between, rfl, hbetween⟩
    · rw [unhanded] at hopening
      cases hopening
    · rw [h.latest earlier opening between given hbetween hopening
        fun exchange hmem => hsince exchange (List.mem_append_left _ hmem), List.any_append]
      cases forgetful
      · rfl
      · cases between.any Exchange.closes <;> cases hcloses : exchange.closes <;> simp [hcloses]

/-- Listeners that are installed were handed over by an opening that no other opening has replaced since and
that no close has released. -/
theorem handed (h : Latest forgetful past listeners) (hne : listeners ≠ (none, none)) :
    ∃ earlier opening since, past = earlier ++ opening :: since ∧ opening.handed? = some listeners ∧
      ∀ later ∈ since, later.handed? = none ∧ (forgetful = true → later.closes = false) := by
  by_cases hnever : ∀ exchange ∈ past, exchange.handed? = none
  · exact absurd (h.never hnever) hne
  · obtain ⟨earlier, opening, since, given, hpast, hopening, hsince⟩ := exists_last_handed hnever
    have hgiven := h.latest earlier opening since given hpast hopening hsince
    cases hreleased : forgetful && since.any Exchange.closes with
    | true =>
        rw [hreleased, if_pos rfl] at hgiven
        exact absurd hgiven hne
    | false =>
        rw [hreleased, if_neg Bool.false_ne_true] at hgiven
        refine ⟨earlier, opening, since, hpast, hgiven ▸ hopening, fun later hlater => ?_⟩
        refine ⟨hsince later hlater, fun hforgetful => ?_⟩
        rw [hforgetful, Bool.true_and, List.any_eq_false] at hreleased
        exact Bool.not_eq_true _ ▸ hreleased later hlater

end Latest

/-! ### The calls of one exchange -/

/-- Two sessions that make the same of a call: they have the same fields and have counted the same calls. -/
structure Alike (left right : Session) : Prop where
  fields_eq : left.fields = right.fields
  inputCalls_eq : left.inputCalls = right.inputCalls
  closeCalls_eq : left.closeCalls = right.closeCalls

theorem Alike.observe_call {left right : Session} (h : Alike left right) {event : Event}
    (hcall : event.isCall = true) :
    (left.observe event).2 = (right.observe event).2 ∧ (left.observe event).2.isCall = true ∧
      Alike (left.observe event).1 (right.observe event).1 := by
  have hinput : left.inputCalls + 1 = right.inputCalls + 1 := congrArg (· + 1) h.inputCalls_eq
  have hclose : left.closeCalls + 1 = right.closeCalls + 1 := congrArg (· + 1) h.closeCalls_eq
  cases event with
  | input listener value =>
      cases listener with
      | caller name =>
          exact ⟨congrArg (Notice.heard name · value) hinput, rfl, h.fields_eq, hinput, h.closeCalls_eq⟩
      | field slot =>
          have hname : (left.fields[slot]?.map (·.name)).getD "" =
              (right.fields[slot]?.map (·.name)).getD "" := by
            rw [h.fields_eq]
          exact ⟨congrArg (Notice.wrote · value) hname, rfl,
            congrArg (·.modify slot (·.write value)) h.fields_eq, hinput, h.closeCalls_eq⟩
  | closed name =>
      exact ⟨congrArg (Notice.dismissed name) hclose, rfl, h.fields_eq, h.inputCalls_eq, hclose⟩
  | draw command => cases hcall
  | log record => cases hcall

theorem Alike.observe_other {left right : Session} (h : Alike left right) {event : Event}
    (hcall : event.isCall = false) :
    (left.observe event).2.isCall = false ∧ Alike (left.observe event).1 right := by
  cases event with
  | input listener value => cases hcall
  | closed name => cases hcall
  | draw command => exact ⟨rfl, h.fields_eq, h.inputCalls_eq, h.closeCalls_eq⟩
  | log record => exact ⟨rfl, h⟩

/-- What is not a call changes nothing for the calls among the events. -/
theorem Alike.observeAll {left right : Session} (h : Alike left right) (events : List Event) :
    (left.observeAll events).2.filter Notice.isCall = (right.observeAll (events.filter Event.isCall)).2 ∧
      Alike (left.observeAll events).1 (right.observeAll (events.filter Event.isCall)).1 := by
  induction events generalizing left right with
  | nil => exact ⟨rfl, h⟩
  | cons event rest ih =>
      cases hcall : event.isCall with
      | true =>
          obtain ⟨hnotice, hnoticed, hnext⟩ := h.observe_call hcall
          rw [List.filter_cons_of_pos hcall]
          obtain ⟨hnotices, hlast⟩ := ih hnext
          refine ⟨?_, hlast⟩
          simp only [Session.observeAll]
          rw [List.filter_cons_of_pos hnoticed, hnotices, hnotice]
      | false =>
          obtain ⟨hnoticed, hnext⟩ := h.observe_other hcall
          rw [List.filter_cons_of_neg (by simp [hcall])]
          obtain ⟨hnotices, hlast⟩ := ih hnext
          refine ⟨?_, hlast⟩
          simp only [Session.observeAll]
          rw [List.filter_cons_of_neg (by simp [hnoticed]), hnotices]

theorem emit_calls (keyboard : Keyboard) (value : String) :
    (keyboard.emit value).2.filter Event.isCall = (keyboard.onInput.map (Event.input · value)).toList := by
  rw [emit]
  cases keyboard.onInput <;> rfl

theorem turnCapsLock_calls (keyboard : Keyboard) (index : Nat) :
    (keyboard.turnCapsLock index).2.filter Event.isCall = [] := by
  refine List.filter_eq_nil_iff.mpr fun event hevent => ?_
  rcases List.mem_append.mp hevent with hdraw | hlast
  · obtain ⟨command, -, rfl⟩ := List.mem_map.mp hdraw
    exact Bool.false_ne_true
  · simp only [List.mem_cons, List.not_mem_nil, or_false] at hlast
    rcases hlast with rfl | rfl <;> exact Bool.false_ne_true

theorem actuate_calls (keyboard : Keyboard) (index : Nat) (key : Key) :
    (keyboard.actuate index key).2.2.filter Event.isCall =
      (keyboard.actuate index key).1.calls keyboard.onInput keyboard.onClose := by
  cases hrole : key.role with
  | capsLock =>
      simp only [actuate, hrole, List.filter_append, turnCapsLock_calls, List.append_nil]
      exact emit_calls keyboard key.label
  | done =>
      simp only [actuate, hrole, List.filter_append]
      cases keyboard.onClose <;> rfl
  | _ =>
      simp only [actuate, hrole]
      exact emit_calls keyboard _

theorem close_listeners (keyboard : Keyboard) :
    (keyboard.close.1.onInput, keyboard.close.1.onClose) =
      if keyboard.forgetful then (none, none) else (keyboard.onInput, keyboard.onClose) := by
  cases hforgetful : keyboard.forgetful <;> simp [close, hforgetful]

theorem actuate_listeners (keyboard : Keyboard) (index : Nat) (key : Key) :
    ((keyboard.actuate index key).2.1.onInput, (keyboard.actuate index key).2.1.onClose) =
      if keyboard.forgetful && (keyboard.actuate index key).1 = .dismissed then (none, none)
      else (keyboard.onInput, keyboard.onClose) := by
  cases hrole : key.role with
  | done =>
      simp only [actuate, hrole, decide_true, Bool.and_true]
      exact keyboard.close_listeners
  | _ =>
      simp only [actuate, hrole, reduceCtorEq, decide_false, Bool.and_false, Bool.false_eq_true, if_false]
      rfl

/-- No press changes what the keyboard was built from. -/
theorem actuate_built (keyboard : Keyboard) (index : Nat) (key : Key) :
    (keyboard.actuate index key).2.1.layout = keyboard.layout ∧
      (keyboard.actuate index key).2.1.forgetful = keyboard.forgetful := by
  cases hrole : key.role <;> simp only [actuate, hrole] <;> exact ⟨rfl, rfl⟩

theorem dismissed_of_done (keyboard : Keyboard) (index : Nat) {key : Key} (hrole : key.role = .done) :
    (keyboard.actuate index key).1 = .dismissed := by
  simp only [actuate, hrole]

theorem typed_of_not_done (keyboard : Keyboard) (index : Nat) {key : Key} (h : key.role ≠ .done) :
    ∃ value, (keyboard.actuate index key).1 = .typed value := by
  cases hrole : key.role with
  | done => exact absurd hrole h
  | _ =>
      simp only [actuate, hrole]
      exact ⟨_, rfl⟩

/-- A keyboard that was built from this layout and has the listeners that its past left it. -/
structure Tended (layout : Layout) (forgetful : Bool) (past : List Exchange) (keyboard : Keyboard) :
    Prop where
  layout_eq : keyboard.layout = layout
  forgetful_eq : keyboard.forgetful = forgetful
  listeners : Latest forgetful past (keyboard.onInput, keyboard.onClose)

namespace Session

/-- What is noticed when an input listener is told a value. -/
def hearing (session : Session) (value : String) : Listener → Notice
  | .caller name => .heard name (session.inputCalls + 1) value
  | .field slot => .wrote ((session.fields[slot]?.map (·.name)).getD "") value

/-- The fields when the input listener was told a value, which a field that listens takes as its own. -/
def fieldsTold (session : Session) (value : String) : Option Listener → List Field
  | some (.field slot) => session.fields.modify slot (·.write value)
  | _ => session.fields

theorem observeAll_input (session : Session) (value : String) (onInput : Option Listener) :
    (session.observeAll (onInput.map (Event.input · value)).toList).2 =
        (onInput.map (session.hearing value)).toList ∧
      (session.observeAll (onInput.map (Event.input · value)).toList).1.fields =
        session.fieldsTold value onInput := by
  rcases onInput with _ | name | slot <;> exact ⟨rfl, rfl⟩

theorem observeAll_closed (session : Session) (onClose : Option String) :
    (session.observeAll (onClose.map Event.closed).toList).2 =
      (onClose.map fun name => Notice.dismissed name (session.closeCalls + 1)).toList := by
  cases onClose <;> rfl

theorem advance_calls (session : Session) (outcome : Keyboard × List Event) :
    (session.advance outcome).2.filter Notice.isCall =
        (session.observeAll (outcome.2.filter Event.isCall)).2 ∧
      (session.advance outcome).1.fields =
        (session.observeAll (outcome.2.filter Event.isCall)).1.fields := by
  have h : Alike { session with keyboard := outcome.1 } session := ⟨rfl, rfl, rfl⟩
  exact ⟨(h.observeAll outcome.2).1, (h.observeAll outcome.2).2.fields_eq⟩

theorem tended_start (layout : Layout) (forgetful : Bool) :
    Tended layout forgetful [] (start layout forgetful).1.keyboard :=
  ⟨rfl, rfl, .nil⟩

theorem tended_exchange {layout : Layout} {forgetful : Bool} (past : List Exchange) (session : Session)
    (request : Request) (single : request.isSingle = true)
    (h : Tended layout forgetful past session.keyboard) :
    Tended layout forgetful (past ++ [session.exchange request])
      (session.exchange request).after.keyboard := by
  obtain ⟨hlayout, hforgetful, hlatest⟩ := h
  cases course_exchange session single with
  | press index key named found moved left noticed =>
      have hkept := hlatest.kept (session.exchange request) (by rw [Exchange.handed?, moved])
      rw [Exchange.closes_of_press moved, ← hforgetful] at hkept
      rw [left, advance_keyboard, pressing]
      obtain ⟨hkeys, hforgets⟩ := actuate_built session.keyboard index key
      refine ⟨hkeys.trans hlayout, hforgets.trans hforgetful, ?_⟩
      rw [actuate_listeners, ← hforgetful]
      exact hkept
  | «open» value onInput onClose moved left noticed =>
      rw [left, advanceOpening_keyboard]
      exact ⟨hlayout, hforgetful, .opened (by rw [Exchange.handed?, moved]; rfl)⟩
  | close moved left noticed =>
      have hkept := hlatest.kept (session.exchange request) (by rw [Exchange.handed?, moved])
      rw [Exchange.closes, moved, Bool.and_true, ← hforgetful, ← close_listeners] at hkept
      rw [left, advance_keyboard]
      exact ⟨hlayout, hforgetful, hforgetful ▸ hkept⟩
  | rest moved silent kept =>
      obtain ⟨bound, hbound⟩ := kept
      have hkept := hlatest.kept (session.exchange request) (by rw [Exchange.handed?, moved])
      rw [Exchange.closes, moved, Bool.and_false, if_neg Bool.false_ne_true] at hkept
      rw [hbound]
      exact ⟨hlayout, hforgetful, hkept⟩

theorem press_calls (session : Session) {index : Nat} {key : Key} {outcome : Outcome}
    (houtcome : (session.keyboard.actuate index key).1 = outcome) :
    (session.advance (session.keyboard.pressing index key)).2.filter Notice.isCall =
        (session.observeAll (outcome.calls session.keyboard.onInput session.keyboard.onClose)).2 ∧
      (session.advance (session.keyboard.pressing index key)).1.fields =
        (session.observeAll (outcome.calls session.keyboard.onInput session.keyboard.onClose)).1.fields := by
  rw [← houtcome, ← actuate_calls]
  exact advance_calls session (session.keyboard.pressing index key)

/-- The session in the middle of a press of done: all is hidden, and the close listener is yet to be told. -/
def closing (session : Session) : Session :=
  { session with
    keyboard := session.keyboard.close.1
    display := session.display.draw Key.legend .hide }

theorem advance_done (session : Session) (index : Nat) {key : Key} (hrole : key.role = .done) :
    session.advance (session.keyboard.pressing index key) =
      ((session.closing.observeAll (session.keyboard.onClose.map Event.closed).toList).1,
        [.log (.pressed index .done), .draw .hide, .log .closed] ++
          (session.closing.observeAll (session.keyboard.onClose.map Event.closed).toList).2) := by
  rw [pressing, actuate, hrole]
  rfl

theorem calls_of_unpressed {layout : Layout} {exchange : Exchange} (course : exchange.Course)
    (hlayout : exchange.before.keyboard.layout = layout) (unpressed : exchange.pressed? layout = none) :
    exchange.notices.filter Notice.isCall = [] := by
  cases course with
  | press index key named found moved =>
      rw [Exchange.pressed?_of_move moved hlayout named found] at unpressed
      cases unpressed
  | «open» value onInput onClose moved left noticed =>
      rw [noticed, advanceOpening, (advance_calls _ _).1]
      cases hvisible : exchange.before.keyboard.visible <;> simp [Keyboard.open, hvisible] <;> rfl
  | close moved left noticed =>
      rw [noticed, (advance_calls _ _).1]
      rfl
  | rest moved silent => rw [silent, List.filter_nil]

theorem calls_of_typing {layout : Layout} {exchange : Exchange} {key : Key} (course : exchange.Course)
    (hlayout : exchange.before.keyboard.layout = layout) (hpressed : exchange.pressed? layout = some key)
    (hrole : key.role ≠ .done) :
    ∃ value, exchange.answer = .pressed (.ok (.typed value)) ∧
      exchange.notices.filter Notice.isCall =
        (exchange.before.keyboard.onInput.map (exchange.before.hearing value)).toList ∧
      exchange.after.fields = exchange.before.fieldsTold value exchange.before.keyboard.onInput := by
  obtain ⟨index, -, moved, left, noticed⟩ := course.of_pressed hlayout hpressed
  obtain ⟨value, hvalue⟩ := typed_of_not_done exchange.before.keyboard index hrole
  obtain ⟨hcalls, hfields⟩ := exchange.before.press_calls hvalue
  obtain ⟨htold, hwritten⟩ := exchange.before.observeAll_input value exchange.before.keyboard.onInput
  refine ⟨value, by rw [Exchange.answer_of_move moved, hvalue], ?_, ?_⟩
  · rw [noticed, hcalls]
    exact htold
  · rw [left, hfields]
    exact hwritten

theorem calls_of_done {layout : Layout} {exchange : Exchange} {key : Key} (course : exchange.Course)
    (hlayout : exchange.before.keyboard.layout = layout) (hpressed : exchange.pressed? layout = some key)
    (hrole : key.role = .done) :
    exchange.answer = .pressed (.ok .dismissed) ∧
      exchange.notices.filter Notice.isCall = (exchange.before.keyboard.onClose.map fun name =>
        Notice.dismissed name (exchange.before.closeCalls + 1)).toList ∧
      (∃ index, layout.key? index = some key ∧
        exchange.notices = [.log (.pressed index .done), .draw .hide, .log .closed] ++
          exchange.notices.filter Notice.isCall) ∧
      (exchange.after, exchange.notices.filter Notice.isCall) =
        exchange.before.closing.observeAll
          (exchange.before.keyboard.onClose.map Event.closed).toList := by
  obtain ⟨index, found, moved, left, noticed⟩ := course.of_pressed hlayout hpressed
  have hdismissed := dismissed_of_done exchange.before.keyboard index hrole
  have hcalls : exchange.notices.filter Notice.isCall = _ :=
    (congrArg (List.filter Notice.isCall) noticed).trans ((exchange.before.press_calls hdismissed).1.trans
      (exchange.before.observeAll_closed exchange.before.keyboard.onClose))
  have hlast := hcalls.trans
    (exchange.before.closing.observeAll_closed exchange.before.keyboard.onClose).symm
  rw [exchange.before.advance_done index hrole] at left noticed
  refine ⟨by rw [Exchange.answer_of_move moved, hdismissed], hcalls, ⟨index, found, ?_⟩, Prod.ext left hlast⟩
  rw [hlast]
  exact noticed

/-- Along every run, the installed listeners are those of the latest opening, unless they were released
since. A press of done hides everything and then calls the close listener, any other press calls the input
listener, both once and nobody else; whatever else happens calls nobody. So whoever is called was handed
over by an opening, and neither replaced nor released since. -/
theorem listeners_along_run (layout : Layout) (forgetful : Bool) (requests : List Request) :
    let session := (start layout forgetful).1
    let last := (session.after requests).keyboard
    Latest forgetful (session.history requests) (last.onInput, last.onClose) ∧
    ∀ past exchange future, session.history requests = past ++ exchange :: future →
      let before := exchange.before
      let calls := exchange.notices.filter Notice.isCall
      Latest forgetful past (before.keyboard.onInput, before.keyboard.onClose) ∧
      (∀ key, exchange.pressed? layout = some key → key.role ≠ .done →
        ∃ value, exchange.answer = .pressed (.ok (.typed value)) ∧
          calls = (before.keyboard.onInput.map (before.hearing value)).toList ∧
          exchange.after.fields = before.fieldsTold value before.keyboard.onInput) ∧
      (∀ key, exchange.pressed? layout = some key → key.role = .done →
        exchange.answer = .pressed (.ok .dismissed) ∧
        calls = (before.keyboard.onClose.map fun name =>
          Notice.dismissed name (before.closeCalls + 1)).toList ∧
        (∃ index, layout.key? index = some key ∧
          exchange.notices = [.log (.pressed index .done), .draw .hide, .log .closed] ++ calls) ∧
        before.closing.keyboard.value = "" ∧ before.closing.keyboard.visible = false ∧
        before.closing.display.visible = false ∧
        (exchange.after, calls) =
          before.closing.observeAll (before.keyboard.onClose.map Event.closed).toList) ∧
      (exchange.pressed? layout = none → calls = []) ∧
      (calls ≠ [] → ∃ earlier opening since, past = earlier ++ opening :: since ∧
        opening.handed? = some (before.keyboard.onInput, before.keyboard.onClose) ∧
        ∀ later ∈ since, later.handed? = none ∧ (forgetful = true → later.closes = false)) := by
  intro session last
  refine ⟨(history_induction (P := fun past session => Tended layout forgetful past session.keyboard)
    (tended_start layout forgetful) tended_exchange requests).listeners, ?_⟩
  intro past exchange future hrun before calls
  obtain ⟨⟨hlayout, -, hlatest⟩, course, -⟩ :=
    holds_around (P := fun past session => Tended layout forgetful past session.keyboard)
      (tended_start layout forgetful) tended_exchange hrun
  refine ⟨hlatest, fun key => calls_of_typing course hlayout, ?_, calls_of_unpressed course hlayout, ?_⟩
  · intro key hpressed hrole
    obtain ⟨hanswer, hcalls, hnotices, hafter⟩ := calls_of_done course hlayout hpressed hrole
    exact ⟨hanswer, hcalls, hnotices, rfl, rfl, rfl, hafter⟩
  · refine fun hcalled => hlatest.handed fun hnone => hcalled ?_
    obtain ⟨hinput, hclose⟩ := Prod.mk.inj hnone
    cases hpressed : exchange.pressed? layout with
    | none => exact calls_of_unpressed course hlayout hpressed
    | some key =>
        by_cases hrole : key.role = .done
        · have hcalls := (calls_of_done course hlayout hpressed hrole).2.1
          rw [hclose] at hcalls
          exact hcalls
        · obtain ⟨value, -, hcalls, -⟩ := calls_of_typing course hlayout hpressed hrole
          rw [hinput] at hcalls
          exact hcalls

end Session

end Keyboard

end ScreenKeyboard
