import ScreenKeyboard.Proofs.Displays

/-!
What a keyboard does apart from its texts. Take the labels, icons and hints from the keys, and the texts from
everything else: what remains of a keyboard in use (`Session.bare`) takes the same steps as the whole, as long
as keys are not named by their labels (`exchange_bare`). Take only the hints, and nothing is lost at all
(`exchange_unstyled`). So the steps of a run follow from the roles of the keys, and the hints never matter
(`control_along_runs`).
-/

namespace ScreenKeyboard

/-! ### Without texts -/

/-- Keys that only type, whatever they type, are alike without texts. -/
def Role.bare : Role → Role
  | .capsLock => .capsLock
  | .done => .done
  | _ => .literal

/-- The key with nothing but what its role says. -/
def Key.bare (key : Key) : Key where
  label := ""
  role := key.role.bare

def Layout.bare (layout : Layout) : Layout :=
  ⟨layout.keys.map Key.bare⟩

def Field.bare (field : Field) : Field :=
  { field with text := "" }

/-- The display without texts, and without the widths and rows that follow from hints and labels. -/
def Display.bare (display : Display) : Display :=
  { display with texts := [], wide := [], rows := [] }

/-- The command as bare keys get it. They have no texts to rewrite. -/
def Draw.bare? : Draw → Option Draw
  | .mount layout => some (.mount layout.bare)
  | .rewrite _ _ => none
  | command => some command

/-- The record without the length of a text and without what a key types. -/
def Keyboard.Record.bare : Keyboard.Record → Keyboard.Record
  | .opened _ => .opened 0
  | .pressed index role => .pressed index role.bare
  | record => record

def Event.bare? : Event → Option Event
  | .draw command => command.bare?.map .draw
  | .input listener _ => some (.input listener "")
  | .closed name => some (.closed name)
  | .log record => some (.log record.bare)

/-- That the key contributed something, or that it dismissed the keyboard. -/
def Outcome.bare : Outcome → Outcome
  | .typed _ => .typed ""
  | .dismissed => .dismissed

/-! ### Without hints -/

def Key.unstyled (key : Key) : Key :=
  { key with style := {} }

def Layout.unstyled (layout : Layout) : Layout :=
  ⟨layout.keys.map Key.unstyled⟩

theorem Layout.rowsFrom_unstyled (start index : Nat) (keys : List Key) :
    rowsFrom start index (keys.map Key.unstyled) = rowsFrom start index keys := by
  induction keys generalizing start index with
  | nil => rfl
  | cons key rest ih =>
      simp only [List.map_cons, rowsFrom, ih]
      rfl

/-- Rows follow from labels. -/
theorem Layout.rows_unstyled (layout : Layout) : layout.unstyled.rows = layout.rows :=
  rowsFrom_unstyled 0 0 layout.keys

/-- The display without the widths that follow from hints. -/
def Display.unstyled (display : Display) : Display :=
  { display with wide := [] }

namespace Keyboard

def bare (keyboard : Keyboard) : Keyboard :=
  { keyboard with layout := keyboard.layout.bare, legends := [], value := "" }

/-- Who is called and how often, what is shown, hidden and lit; not the values and not the texts drawn. -/
def Notice.bare? : Notice → Option Notice
  | .draw command => command.bare?.map .draw
  | .heard name count _ => some (.heard name count "")
  | .dismissed name count => some (.dismissed name count)
  | .wrote field _ => some (.wrote field "")
  | .log record => some (.log record.bare)

def Request.bare : Request → Request
  | .open _ onInput onClose => .open "" onInput onClose
  | .bind fields => .bind (fields.map Field.bare)
  | .edit name _ => .edit name ""
  | request => request

/-- Whether a request names keys by their index, if it names any. -/
def Request.isIndexed : Request → Bool
  | .pressLabel _ => false
  | .type _ => false
  | _ => true

/-- The answer without the values typed; a refusal stays as it is. -/
def Answer.bare : Answer → Answer
  | .pressed outcome => .pressed (outcome.map Outcome.bare)
  | .typed outcomes => .typed (outcomes.map (Except.map Outcome.bare))
  | answer => answer

/-- What is left of a session without texts: caps lock, visibility, the listeners, what is bound, what is lit, and
who was called how often. -/
def Session.bare (session : Session) : Session :=
  { session with
    keyboard := session.keyboard.bare
    display := session.display.bare
    fields := session.fields.map Field.bare }

def Exchange.bare (exchange : Exchange) : Exchange where
  before := exchange.before.bare
  request := exchange.request.bare
  answer := exchange.answer.bare
  after := exchange.after.bare
  notices := exchange.notices.filterMap Notice.bare?

def unstyled (keyboard : Keyboard) : Keyboard :=
  { keyboard with layout := keyboard.layout.unstyled }

def Session.unstyled (session : Session) : Session :=
  { session with keyboard := session.keyboard.unstyled, display := session.display.unstyled }

/-- The exchange with all that was answered and noticed. -/
def Exchange.unstyled (exchange : Exchange) : Exchange :=
  { exchange with before := exchange.before.unstyled, after := exchange.after.unstyled }

/-! ### The steps of a bare keyboard -/

theorem emit_bare (keyboard : Keyboard) (value : String) :
    keyboard.bare.emit "" = ((keyboard.emit value).1.bare, (keyboard.emit value).2.filterMap Event.bare?) := by
  cases hinput : keyboard.onInput <;> simp [emit, bare, hinput, Event.bare?]

theorem rewrites_bare (index : Nat) (changes : List (Option String)) :
    ((rewrites index changes).map Event.draw).filterMap Event.bare? = [] := by
  induction changes generalizing index with
  | nil => rfl
  | cons change rest ih => cases change <;> exact ih (index + 1)

theorem turnCapsLock_bare (keyboard : Keyboard) (index : Nat) :
    keyboard.bare.turnCapsLock index =
      ((keyboard.turnCapsLock index).1.bare, (keyboard.turnCapsLock index).2.filterMap Event.bare?) := by
  have hchanges : recased (!keyboard.capsLock) keyboard.bare.layout.keys keyboard.bare.legends = [] :=
    List.zipWith_nil_right
  simp only [turnCapsLock, List.filterMap_append, rewrites_bare]
  rw [show keyboard.bare.capsLock = keyboard.capsLock from rfl, hchanges]
  rfl

theorem open_bare (keyboard : Keyboard) (value : String) (onInput : Option Listener) (onClose : Option String) :
    keyboard.bare.open "" onInput onClose =
      ((keyboard.open value onInput onClose).1.bare,
        (keyboard.open value onInput onClose).2.filterMap Event.bare?) := by
  cases hvisible : keyboard.visible <;> simp only [Keyboard.open, bare, hvisible] <;> rfl

theorem close_bare (keyboard : Keyboard) :
    keyboard.bare.close = (keyboard.close.1.bare, keyboard.close.2.filterMap Event.bare?) :=
  rfl

/-- What pressing a key does follows from its role. -/
theorem actuate_bare (keyboard : Keyboard) (index : Nat) (key : Key) :
    keyboard.bare.actuate index key.bare =
      ((keyboard.actuate index key).1.bare, (keyboard.actuate index key).2.1.bare,
        (keyboard.actuate index key).2.2.filterMap Event.bare?) := by
  -- turning caps lock and closing are steps of their own, all other keys only report
  cases hrole : key.role with
  | capsLock =>
      have hbare : key.bare.role = .capsLock := congrArg Role.bare hrole
      simp only [actuate, hrole, hbare, List.filterMap_append]
      rw [show key.bare.label = "" from rfl, keyboard.emit_bare key.label, turnCapsLock_bare]
      rfl
  | done =>
      have hbare : key.bare.role = .done := congrArg Role.bare hrole
      simp only [actuate, hrole, hbare, List.filterMap_append]
      rw [close_bare]
      cases hclose : keyboard.onClose <;> simp [bare, hclose, Event.bare?, Outcome.bare]
  | _ =>
      have hbare : key.bare.role = .literal := congrArg Role.bare hrole
      simp only [actuate, hrole, hbare]
      exact congrArg (Prod.mk _) (keyboard.emit_bare _)

/-- Of the events of a step, that they build no keys. -/
def BuildNothing (events : List Event) : Prop :=
  ∀ layout, Event.draw (.mount layout) ∉ events

theorem buildNothing_of_draws {events : List Event}
    (h : ∀ layout, Draw.mount layout ∉ events.filterMap Event.draw?) : BuildNothing events :=
  fun layout hmount => h layout (List.mem_filterMap.mpr ⟨_, hmount, rfl⟩)

theorem open_buildNothing (keyboard : Keyboard) (value : String) (onInput : Option Listener)
    (onClose : Option String) : BuildNothing (keyboard.open value onInput onClose).2 := by
  apply buildNothing_of_draws
  simp [open_draws]

theorem close_buildNothing (keyboard : Keyboard) : BuildNothing keyboard.close.2 := by
  simp [BuildNothing, close]

theorem pressing_buildNothing (keyboard : Keyboard) (index : Nat) (key : Key) :
    BuildNothing (keyboard.pressing index key).2 := by
  apply buildNothing_of_draws
  intro layout hmount
  have hdraw : Draw.mount layout ∈ (keyboard.actuate index key).2.2.filterMap Event.draw? := hmount
  rw [actuate_draws] at hdraw
  cases hrole : key.role with
  | capsLock =>
      rw [hrole] at hdraw
      rcases List.mem_append.mp hdraw with hrewrite | hlight
      · exact fits_rewrites 0 _ _ hrewrite
      · simp at hlight
  | _ => simp [hrole] at hdraw

theorem pressing_bare (keyboard : Keyboard) (index : Nat) (key : Key) :
    keyboard.bare.pressing index key.bare =
      ((keyboard.pressing index key).1.bare, (keyboard.pressing index key).2.filterMap Event.bare?) := by
  simp only [pressing, actuate_bare]
  rfl

theorem modify_map {α β : Type} {f : α → β} {before : α → α} {after : β → β}
    (h : ∀ x, after (f x) = f (before x)) (index : Nat) (xs : List α) :
    (xs.map f).modify index after = (xs.modify index before).map f := by
  apply List.ext_getElem?
  intro position
  by_cases hindex : index = position <;>
    cases hx : xs[position]? <;> simp [hindex, hx, h]

namespace Session

/-! ### The steps of a bare session -/

theorem observe_bare (session : Session) {event : Event} (h : ∀ layout, event ≠ .draw (.mount layout)) :
    session.bare.observeAll event.bare?.toList =
      ((session.observe event).1.bare, (session.observe event).2.bare?.toList) := by
  cases event with
  | draw command =>
      cases command with
      | mount layout => exact absurd rfl (h layout)
      | _ => rfl
  | input listener value =>
      cases listener with
      | caller name => rfl
      | field slot =>
          have hwrite : ∀ field : Field, field.bare.write "" = (field.write value).bare := by
            intro field
            simp [Field.write, Field.bare]
          have hname : ((session.fields.map Field.bare)[slot]?.map (·.name)).getD "" =
              (session.fields[slot]?.map (·.name)).getD "" := by
            rw [List.getElem?_map, Option.map_map]
            rfl
          have hfields : (session.fields.map Field.bare).modify slot (·.write "") =
              (session.fields.modify slot (·.write value)).map Field.bare := modify_map hwrite slot session.fields
          simp only [Event.bare?, Option.toList, observeAll, observe, bare, hfields, hname, Notice.bare?]
  | closed name => rfl
  | log record => rfl

theorem observeAll_bare (session : Session) {events : List Event} (h : BuildNothing events) :
    session.bare.observeAll (events.filterMap Event.bare?) =
      ((session.observeAll events).1.bare, (session.observeAll events).2.filterMap Notice.bare?) := by
  induction events generalizing session with
  | nil => rfl
  | cons event rest ih =>
      have hfirst := session.observe_bare fun layout heq => h layout (heq ▸ List.mem_cons_self)
      have hrest := ih (session.observe event).1 fun layout hmem => h layout (List.mem_cons_of_mem _ hmem)
      cases hevent : event.bare? with
      | none =>
          -- a rewritten text, which leaves no trace in the bare session
          rw [hevent] at hfirst
          obtain ⟨hsession, hnotice⟩ := Prod.mk.inj hfirst
          rw [List.filterMap_cons_none hevent, show session.bare = _ from hsession, hrest, observeAll,
            List.filterMap_cons_none (Option.toList_eq_nil_iff.mp hnotice.symm)]
      | some seen =>
          rw [hevent] at hfirst
          have hsession : (session.bare.observe seen).1 = (session.observe event).1.bare := congrArg Prod.fst hfirst
          have hnotice : (session.observe event).2.bare? = some (session.bare.observe seen).2 :=
            Option.toList_eq_singleton_iff.mp (congrArg Prod.snd hfirst).symm
          simp only [List.filterMap_cons_some hevent, observeAll, hsession, hrest, List.filterMap_cons_some hnotice]

theorem advance_bare (session : Session) {outcome : Keyboard × List Event} (h : BuildNothing outcome.2) :
    session.bare.advance (outcome.1.bare, outcome.2.filterMap Event.bare?) =
      ((session.advance outcome).1.bare, (session.advance outcome).2.filterMap Notice.bare?) :=
  observeAll_bare { session with keyboard := outcome.1 } h

theorem advanceOpening_bare (session : Session) (value : String) (onInput : Option Listener)
    (onClose : Option String) :
    session.bare.advanceOpening (session.bare.keyboard.open "" onInput onClose) =
      ((session.advanceOpening (session.keyboard.open value onInput onClose)).1.bare,
        (session.advanceOpening (session.keyboard.open value onInput onClose)).2.filterMap Notice.bare?) := by
  rw [show session.bare.keyboard = session.keyboard.bare from rfl, open_bare]
  exact advance_bare { session with inputCalls := 0, closeCalls := 0 }
    (session.keyboard.open_buildNothing value onInput onClose)

theorem bindSlot_bare (session : Session) (slot : Nat) :
    session.bare.bindSlot slot = ((session.bindSlot slot).1, (session.bindSlot slot).2.bare) := by
  have hoptsIn : (session.fields.map Field.bare)[slot]?.any (·.optsIn) = session.fields[slot]?.any (·.optsIn) := by
    rw [List.getElem?_map, Option.any_map]
    rfl
  unfold bindSlot
  rw [show session.bare.fields = session.fields.map Field.bare from rfl, hoptsIn]
  split <;> rfl

theorem bindAll_bare (session : Session) (fields : List Field) :
    session.bare.bindAll (fields.map Field.bare) =
      ((session.bindAll fields).1, (session.bindAll fields).2.bare) := by
  induction fields generalizing session with
  | nil => rfl
  | cons field rest ih =>
      have hfirst := bindSlot_bare { session with fields := session.fields ++ [field] } session.fields.length
      have hlisted : { session.bare with fields := session.bare.fields ++ [field.bare] } =
          ({ session with fields := session.fields ++ [field] } : Session).bare := by
        simp [bare]
      have hslot : session.bare.fields.length = session.fields.length := List.length_map _
      simp only [List.map_cons, bindAll, hlisted, hslot, hfirst, ih]

theorem slotOf?_bare (session : Session) (name : String) : session.bare.slotOf? name = session.slotOf? name := by
  simp only [slotOf?, bare, ← List.map_reverse, List.findIdx?_map, List.length_map]
  rfl

/-- A session without texts takes the steps of the session. -/
theorem step_bare (session : Session) {request : Request} (indexed : request.isIndexed = true) :
    session.bare.step request.bare =
      ((session.step request).1.bare, (session.step request).2.1.bare,
        (session.step request).2.2.filterMap Notice.bare?) := by
  cases request with
  | pressLabel label => cases indexed
  | type labels => cases indexed
  | «open» value onInput onClose =>
      exact congrArg (Prod.mk Answer.done) (session.advanceOpening_bare value (onInput.map .caller) onClose)
  | close => exact congrArg (Prod.mk _) (session.advance_bare session.keyboard.close_buildNothing)
  | press index =>
      have hkey : session.bare.keyboard.layout.key? index = (session.keyboard.layout.key? index).map Key.bare :=
        List.getElem?_map ..
      cases found : session.keyboard.layout.key? index with
      | none =>
          rw [found] at hkey
          simp only [Request.bare, step, Keyboard.press, hkey, found]
          rfl
      | some key =>
          rw [found] at hkey
          have hpress : session.keyboard.bare.press index = .ok _ := press_found hkey
          rw [pressing_bare, actuate_bare] at hpress
          have hadvance := session.advance_bare (session.keyboard.pressing_buildNothing index key)
          simp only [Request.bare, step, press_found found, pressWith]
          rw [show session.bare.keyboard = session.keyboard.bare from rfl, hpress]
          simp only [hadvance]
          rfl
  | bind fields =>
      simp only [Request.bare, step, bindAll_bare]
      rfl
  | rebind name =>
      simp only [Request.bare, step, slotOf?_bare]
      cases session.slotOf? name with
      | none => rfl
      | some slot =>
          simp only [bindSlot_bare]
          rfl
  | focus id =>
      have hbound : session.bare.keyboard.bound = session.keyboard.bound := rfl
      cases found : session.keyboard.bound[id]? with
      | none =>
          simp only [Request.bare, step, Keyboard.focus, hbound, found]
          rfl
      | some slot =>
          have htext : session.bare.textOf slot = "" := by
            rw [textOf, show session.bare.fields = session.fields.map Field.bare from rfl, List.getElem?_map]
            cases session.fields[slot]? <;> rfl
          simp only [Request.bare, step, Keyboard.focus, hbound, found, htext]
          exact congrArg (Prod.mk Answer.done)
            (session.advanceOpening_bare (session.textOf slot) (some (.field slot)) none)
  | edit name text =>
      simp only [Request.bare, step, slotOf?_bare]
      cases session.slotOf? name with
      | none => rfl
      | some slot =>
          have hfields : (session.fields.map Field.bare).modify slot (fun field => { field with text := "" }) =
              (session.fields.modify slot fun field => { field with text }).map Field.bare :=
            modify_map (by intro field; rfl) slot session.fields
          simp only [bare, hfields]
          rfl
  | blankDisplay => rfl

theorem exchange_bare (session : Session) {request : Request} (indexed : request.isIndexed = true) :
    (session.exchange request).bare = session.bare.exchange request.bare := by
  simp only [exchange, Exchange.bare, session.step_bare indexed]

end Session

/-! ### The steps without hints -/

theorem turnCapsLock_unstyled (keyboard : Keyboard) (index : Nat) :
    keyboard.unstyled.turnCapsLock index =
      ((keyboard.turnCapsLock index).1.unstyled, (keyboard.turnCapsLock index).2) := by
  have hchanges : ∀ engaged, recased engaged keyboard.unstyled.layout.keys keyboard.unstyled.legends =
      recased engaged keyboard.layout.keys keyboard.legends :=
    fun engaged => List.zipWith_map_left
  simp only [turnCapsLock, hchanges]
  rfl

theorem actuate_unstyled (keyboard : Keyboard) (index : Nat) (key : Key) :
    keyboard.unstyled.actuate index key.unstyled =
      ((keyboard.actuate index key).1, (keyboard.actuate index key).2.1.unstyled,
        (keyboard.actuate index key).2.2) := by
  have hrole : key.unstyled.role = key.role := rfl
  cases h : key.role with
  | capsLock =>
      have hemit : keyboard.unstyled.emit key.label =
          ((keyboard.emit key.label).1.unstyled, (keyboard.emit key.label).2) := rfl
      simp only [actuate, hrole, h]
      rw [show key.unstyled.label = key.label from rfl, hemit, turnCapsLock_unstyled]
  | _ =>
      simp only [actuate, hrole, h]
      rfl

theorem pressing_unstyled (keyboard : Keyboard) (index : Nat) (key : Key) :
    keyboard.unstyled.pressing index key.unstyled =
      ((keyboard.pressing index key).1.unstyled, (keyboard.pressing index key).2) := by
  simp only [pressing, actuate_unstyled]
  rfl

namespace Session

theorem observeAll_unstyled (session : Session) {events : List Event} (h : BuildNothing events) :
    session.unstyled.observeAll events = ((session.observeAll events).1.unstyled, (session.observeAll events).2) := by
  induction events generalizing session with
  | nil => rfl
  | cons event rest ih =>
      have hfirst : session.unstyled.observe event =
          ((session.observe event).1.unstyled, (session.observe event).2) := by
        cases event with
        | draw command =>
            cases command with
            | mount layout => exact absurd List.mem_cons_self (h layout)
            | _ => rfl
        | input listener value => cases listener <;> rfl
        | _ => rfl
      have hrest := ih (session.observe event).1 fun layout hmem => h layout (List.mem_cons_of_mem _ hmem)
      simp only [observeAll, hfirst, hrest]

theorem advance_unstyled (session : Session) {outcome : Keyboard × List Event} (h : BuildNothing outcome.2) :
    session.unstyled.advance (outcome.1.unstyled, outcome.2) =
      ((session.advance outcome).1.unstyled, (session.advance outcome).2) :=
  observeAll_unstyled { session with keyboard := outcome.1 } h

theorem advanceOpening_unstyled (session : Session) (value : String) (onInput : Option Listener)
    (onClose : Option String) :
    session.unstyled.advanceOpening (session.unstyled.keyboard.open value onInput onClose) =
      ((session.advanceOpening (session.keyboard.open value onInput onClose)).1.unstyled,
        (session.advanceOpening (session.keyboard.open value onInput onClose)).2) :=
  advance_unstyled { session with inputCalls := 0, closeCalls := 0 }
    (session.keyboard.open_buildNothing value onInput onClose)

theorem press_unstyled (session : Session) (index : Nat) :
    session.unstyled.pressWith (session.keyboard.unstyled.press index) =
      ((session.pressWith (session.keyboard.press index)).1,
        (session.pressWith (session.keyboard.press index)).2.1.unstyled,
        (session.pressWith (session.keyboard.press index)).2.2) := by
  have hkey : session.keyboard.unstyled.layout.key? index =
      (session.keyboard.layout.key? index).map Key.unstyled :=
    List.getElem?_map ..
  cases found : session.keyboard.layout.key? index with
  | none =>
      rw [found] at hkey
      simp only [Keyboard.press, hkey, found]
      rfl
  | some key =>
      rw [found] at hkey
      have hpress : session.keyboard.unstyled.press index = .ok _ := press_found hkey
      rw [pressing_unstyled, actuate_unstyled] at hpress
      have hadvance := session.advance_unstyled (session.keyboard.pressing_buildNothing index key)
      rw [hpress, press_found found]
      simp only [pressWith, hadvance]

theorem pressLabel_unstyled (session : Session) (label : String) :
    session.unstyled.pressWith (session.keyboard.unstyled.pressLabel label) =
      ((session.pressWith (session.keyboard.pressLabel label)).1,
        (session.pressWith (session.keyboard.pressLabel label)).2.1.unstyled,
        (session.pressWith (session.keyboard.pressLabel label)).2.2) := by
  have hindex : session.keyboard.unstyled.layout.indexOf? label = session.keyboard.layout.indexOf? label :=
    List.findIdx?_map
  rw [Keyboard.pressLabel, Keyboard.pressLabel, hindex]
  cases session.keyboard.layout.indexOf? label with
  | none => rfl
  | some index => exact session.press_unstyled index

theorem typeAll_unstyled (session : Session) (labels : List String) :
    session.unstyled.typeAll labels =
      ((session.typeAll labels).1, (session.typeAll labels).2.1.unstyled, (session.typeAll labels).2.2) := by
  induction labels generalizing session with
  | nil => rfl
  | cons label rest ih =>
      have hfirst := session.pressLabel_unstyled label
      simp only [typeAll]
      rw [show session.unstyled.keyboard = session.keyboard.unstyled from rfl, hfirst]
      simp only [ih]

theorem bindSlot_unstyled (session : Session) (slot : Nat) :
    session.unstyled.bindSlot slot = ((session.bindSlot slot).1, (session.bindSlot slot).2.unstyled) := by
  unfold bindSlot
  rw [show session.unstyled.fields = session.fields from rfl]
  split <;> rfl

theorem bindAll_unstyled (session : Session) (fields : List Field) :
    session.unstyled.bindAll fields = ((session.bindAll fields).1, (session.bindAll fields).2.unstyled) := by
  induction fields generalizing session with
  | nil => rfl
  | cons field rest ih =>
      have hfirst : ({ session.unstyled with fields := session.fields ++ [field] } : Session).bindSlot _ = _ :=
        bindSlot_unstyled { session with fields := session.fields ++ [field] } session.fields.length
      simp only [bindAll]
      rw [show session.unstyled.fields = session.fields from rfl, hfirst]
      simp only [ih]

/-- No step reads a hint. -/
theorem step_unstyled (session : Session) (request : Request) :
    session.unstyled.step request =
      ((session.step request).1, (session.step request).2.1.unstyled, (session.step request).2.2) := by
  cases request with
  | «open» value onInput onClose =>
      exact congrArg (Prod.mk Answer.done) (session.advanceOpening_unstyled value (onInput.map .caller) onClose)
  | close => exact congrArg (Prod.mk Answer.done) (session.advance_unstyled session.keyboard.close_buildNothing)
  | press index =>
      simp only [step]
      rw [show session.unstyled.keyboard = session.keyboard.unstyled from rfl, session.press_unstyled index]
  | pressLabel label =>
      simp only [step]
      rw [show session.unstyled.keyboard = session.keyboard.unstyled from rfl, session.pressLabel_unstyled label]
  | type labels => simp only [step, typeAll_unstyled]
  | bind fields => simp only [step, bindAll_unstyled]
  | rebind name =>
      have hslot : session.unstyled.slotOf? name = session.slotOf? name := rfl
      simp only [step, hslot]
      cases session.slotOf? name with
      | none => rfl
      | some slot => simp only [bindSlot_unstyled]
  | focus id =>
      have hbound : session.unstyled.keyboard.bound = session.keyboard.bound := rfl
      cases found : session.keyboard.bound[id]? with
      | none => simp only [step, Keyboard.focus, hbound, found]
      | some slot =>
          simp only [step, Keyboard.focus, hbound, found]
          exact congrArg (Prod.mk Answer.done)
            (session.advanceOpening_unstyled (session.textOf slot) (some (.field slot)) none)
  | edit name text =>
      have hslot : session.unstyled.slotOf? name = session.slotOf? name := rfl
      simp only [step, hslot]
      cases session.slotOf? name <;> rfl
  | blankDisplay => rfl

theorem exchange_unstyled (session : Session) (request : Request) :
    (session.exchange request).unstyled = session.unstyled.exchange request := by
  simp only [exchange, Exchange.unstyled, session.step_unstyled]

/-! ### Runs -/

/-- If every request of a run takes the view of a session to the view of what comes of it, then the run of the
view is the view of the run. -/
theorem exchanges_map {view : Session → Session} {seen : Exchange → Exchange} {asked : Request → Request}
    (hafter : ∀ exchange, (seen exchange).after = view exchange.after) {requests : List Request}
    (pass : ∀ session, ∀ request ∈ requests,
      seen (session.exchange request) = (view session).exchange (asked request))
    (session : Session) :
    (session.exchanges requests).map seen = (view session).exchanges (requests.map asked) := by
  induction requests generalizing session with
  | nil => rfl
  | cons request rest ih =>
      have hfirst := pass session request List.mem_cons_self
      have hrest := ih (fun session later hlater => pass session later (List.mem_cons_of_mem _ hlater))
        (session.exchange request).after
      rw [exchanges, List.map_cons, hfirst, hrest, ← hafter, hfirst]
      rfl

theorem exchanges_bare (session : Session) {requests : List Request}
    (indexed : requests.all Request.isIndexed = true) :
    (session.exchanges requests).map Exchange.bare = session.bare.exchanges (requests.map Request.bare) :=
  exchanges_map (fun _ => rfl)
    (fun before request hrequest => before.exchange_bare (List.all_eq_true.mp indexed request hrequest)) session

theorem exchanges_unstyled (session : Session) (requests : List Request) :
    (session.exchanges requests).map Exchange.unstyled = session.unstyled.exchanges requests := by
  have h : _ = session.unstyled.exchanges (requests.map id) :=
    exchanges_map (fun _ => rfl) (fun before request _ => before.exchange_unstyled request) session
  rw [h, List.map_id]

/-- A new session looks bare as the roles of its keys say. -/
theorem start_bare {left right : Layout} {forgetful : Bool}
    (roles : left.keys.map Key.role = right.keys.map Key.role) :
    (start left forgetful).1.bare = (start right forgetful).1.bare := by
  have hkeys : ∀ layout : Layout, layout.bare =
      ⟨(layout.keys.map Key.role).map fun role => { label := "", role := role.bare }⟩ := by
    intro layout
    rw [List.map_map]
    rfl
  have hlit : (left.keys.map fun _ => false) = right.keys.map fun _ => false := by
    rw [List.map_const', List.map_const', ← List.length_map Key.role, roles, List.length_map]
  have hlayout : left.bare = right.bare := by rw [hkeys, hkeys, roles]
  simp only [start, ofLayout, bare, Keyboard.bare, mounting, Display.follow, Display.draw, Display.bare, hlayout,
    List.foldl_cons, List.foldl_nil, hlit]

theorem start_unstyled {left right : Layout} {forgetful : Bool}
    (hints : left.keys.map Key.unstyled = right.keys.map Key.unstyled) :
    (start left forgetful).1.unstyled = (start right forgetful).1.unstyled := by
  have hstart : ∀ layout : Layout,
      (start layout.unstyled forgetful).1.unstyled = (start layout forgetful).1.unstyled := by
    intro layout
    have hunstyled : layout.unstyled.unstyled = layout.unstyled := by simp [Layout.unstyled, Key.unstyled]
    have hlegends : layout.unstyled.keys.map Key.legend = layout.keys.map Key.legend := List.map_map
    have hlit : (layout.unstyled.keys.map fun _ => false) = layout.keys.map fun _ => false := List.map_map
    simp only [start, ofLayout, unstyled, Keyboard.unstyled, mounting, Display.follow, Display.draw, Display.unstyled,
      List.foldl_cons, List.foldl_nil, hunstyled, hlegends, hlit, layout.rows_unstyled]
  have hlayout : left.unstyled = right.unstyled := congrArg Layout.mk hints
  rw [← hstart left, hlayout, hstart right]

/-- Keyboards whose keys have the same roles, one by one, take the same steps on the same requests, as long as these
name keys by their index: they accept or refuse alike, type or dismiss alike, call the same listeners equally
often, agree on caps lock, visibility and installed listeners, and show, hide and light the same. If the keys
differ in nothing but hints, then all that is answered, noticed, shown and held is the same, however keys are
named. -/
theorem control_along_runs (left right : Layout) (forgetful : Bool) (requests : List Request)
    (roles : left.keys.map Key.role = right.keys.map Key.role) :
    (requests.all Request.isIndexed = true →
      ((start left forgetful).1.exchanges requests).map Exchange.bare =
        ((start right forgetful).1.exchanges requests).map Exchange.bare) ∧
    (left.keys.map Key.unstyled = right.keys.map Key.unstyled →
      ((start left forgetful).1.exchanges requests).map Exchange.unstyled =
        ((start right forgetful).1.exchanges requests).map Exchange.unstyled) := by
  constructor
  · intro indexed
    rw [exchanges_bare _ indexed, exchanges_bare _ indexed, start_bare roles]
  · intro hints
    rw [exchanges_unstyled, exchanges_unstyled, start_unstyled hints]

theorem control_of_misleading_labels :
    let left : Layout := ⟨[{ label := "done", role := .literal }, { label := "a", role := .capsLock }]⟩
    let right : Layout := ⟨[{ label := "Caps Lock", role := .literal, icon := some .enter },
      { label := "done", role := .capsLock, style := { wide := true } }]⟩
    let requests := [Request.open "x" (some "k") none, .press 0, .press 1, .press 2, .close]
    left.keys.map Key.role = right.keys.map Key.role ∧ requests.all Request.isIndexed = true ∧
      ((start left true).1.exchanges requests).map Exchange.bare =
        ((start right true).1.exchanges requests).map Exchange.bare :=
  ⟨rfl, rfl, (control_along_runs _ _ true _ rfl).1 rfl⟩

end Session

end Keyboard

end ScreenKeyboard
