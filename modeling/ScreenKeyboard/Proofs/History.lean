import Mathlib.Data.List.Induction
import ScreenKeyboard.Keyboard.Session

/-!
Runs of a keyboard in use. A run is a list of requests; its history lists, one press at a time, each
request with the session that met it, the answer, and the session and notices that came of it.
`course_exchange` says once what a single request can do to the keyboard, `history_induction` is the
induction over runs; what holds along runs is derived from these two.
-/

namespace ScreenKeyboard.Keyboard

/-- An element of a list to which one was added is the added one, or was there before. -/
theorem concat_eq_append_cons {α : Type} {init front back : List α} {last middle : α}
    (h : init ++ [last] = front ++ middle :: back) :
    (back = [] ∧ init = front ∧ last = middle) ∨
      ∃ between, back = between ++ [last] ∧ init = front ++ middle :: between := by
  rcases List.eq_nil_or_concat back with rfl | ⟨between, final, rfl⟩
  · obtain ⟨hinit, hlast⟩ := List.append_inj' h rfl
    exact Or.inl ⟨rfl, hinit, List.singleton_inj.mp hlast⟩
  · rw [List.concat_eq_append, ← List.cons_append, ← List.append_assoc] at h
    obtain ⟨hinit, hlast⟩ := List.append_inj' h rfl
    obtain rfl := List.singleton_inj.mp hlast
    exact Or.inr ⟨between, List.concat_eq_append, hinit⟩

/-- The requests that a request makes one after the other: typing presses its labels in turn. -/
def Request.singles : Request → List Request
  | .type labels => labels.map .pressLabel
  | request => [request]

def Request.isSingle : Request → Bool
  | .type _ => false
  | _ => true

theorem Request.isSingle_of_mem_singles {request whole : Request} (h : request ∈ whole.singles) :
    request.isSingle = true := by
  cases whole with
  | type labels =>
      obtain ⟨label, -, rfl⟩ := List.mem_map.mp h
      rfl
  | _ =>
      rw [List.mem_singleton.mp h]
      rfl

/-- The index that a request to press a key names. -/
def Request.index? (layout : Layout) : Request → Option Nat
  | .press index => some index
  | .pressLabel label => layout.indexOf? label
  | _ => none

/-- The keyboard and the events of a press of `key`, the key at `index`. -/
def pressing (keyboard : Keyboard) (index : Nat) (key : Key) : Keyboard × List Event :=
  ((keyboard.actuate index key).2.1, .log (.pressed index key.role) :: (keyboard.actuate index key).2.2)

theorem press_missing {keyboard : Keyboard} {index : Nat} (missing : keyboard.layout.key? index = none) :
    keyboard.press index = .error (.noSuchKey index) := by
  rw [press, missing]

theorem press_found {keyboard : Keyboard} {index : Nat} {key : Key}
    (found : keyboard.layout.key? index = some key) :
    keyboard.press index = .ok ((keyboard.actuate index key).1, keyboard.pressing index key) := by
  rw [press, found]
  rfl

/-- A request with the session that met it and all that came of it. -/
structure Exchange where
  before : Session
  request : Request
  answer : Answer
  after : Session
  notices : List Notice

/-- What an exchange was to the keyboard, as its answer tells. -/
inductive Move
  | press (outcome : Outcome)
  /-- The keyboard was opened with a value, an input listener and a close listener. -/
  | «open» (value : String) (onInput : Option Listener) (onClose : Option String)
  | close
  /-- The request was refused or was none of the keyboard's doing. -/
  | rest
  deriving DecidableEq, Repr

namespace Exchange

/-- A caller that opens the keyboard brings a value and listeners. Focusing a bound field opens it with the
field's text; the field hears what is typed, and nobody hears of the closing. -/
def move (exchange : Exchange) : Move :=
  match exchange.answer, exchange.request with
  | .pressed (.ok outcome), _ => .press outcome
  | .done, .open value onInput onClose => .open value (onInput.map .caller) onClose
  | .done, .focus id =>
    match exchange.before.keyboard.bound[id]? with
    | some slot => .open (exchange.before.textOf slot) (some (.field slot)) none
    | none => .rest
  | .done, .close => .close
  | _, _ => .rest

/-- The key that was pressed, unless the press was refused. -/
def pressed? (layout : Layout) (exchange : Exchange) : Option Key :=
  match exchange.move with
  | .press _ => (exchange.request.index? layout).bind layout.key?
  | _ => none

/-- The courses that a single request can take: what the keyboard does and what the session makes of it. -/
inductive Course (exchange : Exchange) : Prop
  | press (index : Nat) (key : Key)
      (named : exchange.request.index? exchange.before.keyboard.layout = some index)
      (found : exchange.before.keyboard.layout.key? index = some key)
      (moved : exchange.move = .press (exchange.before.keyboard.actuate index key).1)
      (left : exchange.after = (exchange.before.advance (exchange.before.keyboard.pressing index key)).1)
      (noticed : exchange.notices = (exchange.before.advance (exchange.before.keyboard.pressing index key)).2)
  | «open» (value : String) (onInput : Option Listener) (onClose : Option String)
      (moved : exchange.move = .open value onInput onClose)
      (left : exchange.after =
        (exchange.before.advanceOpening (exchange.before.keyboard.open value onInput onClose)).1)
      (noticed : exchange.notices =
        (exchange.before.advanceOpening (exchange.before.keyboard.open value onInput onClose)).2)
  | close (moved : exchange.move = .close)
      (left : exchange.after = (exchange.before.advance exchange.before.keyboard.close).1)
      (noticed : exchange.notices = (exchange.before.advance exchange.before.keyboard.close).2)
  | rest (moved : exchange.move = .rest) (silent : exchange.notices = [])
      (kept : ∃ bound, exchange.after.keyboard = { exchange.before.keyboard with bound })

variable {layout : Layout} {exchange : Exchange} {index : Nat} {key : Key} {outcome : Outcome}

theorem answer_of_move (moved : exchange.move = .press outcome) :
    exchange.answer = .pressed (.ok outcome) := by
  unfold move at moved
  split at moved
  · next hanswer =>
      cases moved
      exact hanswer
  · cases moved
  · split at moved <;> cases moved
  · cases moved
  · cases moved

theorem pressed?_of_move (moved : exchange.move = .press outcome)
    (hlayout : exchange.before.keyboard.layout = layout)
    (named : exchange.request.index? exchange.before.keyboard.layout = some index)
    (found : exchange.before.keyboard.layout.key? index = some key) :
    exchange.pressed? layout = some key := by
  rw [pressed?, moved, ← hlayout]
  exact Option.bind_eq_some_iff.mpr ⟨index, named, found⟩

/-- The course of an exchange that pressed a key. -/
theorem Course.of_pressed (course : exchange.Course) (hlayout : exchange.before.keyboard.layout = layout)
    (hpressed : exchange.pressed? layout = some key) :
    ∃ index, layout.key? index = some key ∧
      exchange.move = .press (exchange.before.keyboard.actuate index key).1 ∧
      exchange.after = (exchange.before.advance (exchange.before.keyboard.pressing index key)).1 ∧
      exchange.notices = (exchange.before.advance (exchange.before.keyboard.pressing index key)).2 := by
  cases course with
  | press index pressed named found moved left noticed =>
      rw [pressed?_of_move moved hlayout named found] at hpressed
      obtain rfl := Option.some.inj hpressed
      exact ⟨index, hlayout ▸ found, moved, left, noticed⟩
  | «open» value onInput onClose moved => simp [pressed?, moved] at hpressed
  | close moved => simp [pressed?, moved] at hpressed
  | rest moved => simp [pressed?, moved] at hpressed

end Exchange

/-- How often caps lock was turned over in a history: the presses of caps lock keys that were not refused. -/
def turns (layout : Layout) (history : List Exchange) : Nat :=
  history.countP fun exchange => (exchange.pressed? layout).any Key.isToggle

theorem turns_concat (layout : Layout) (past : List Exchange) (exchange : Exchange) :
    turns layout (past ++ [exchange]) =
      turns layout past + if (exchange.pressed? layout).any Key.isToggle then 1 else 0 := by
  rw [turns, List.countP_append, List.countP_singleton]
  rfl

namespace Session

def exchange (session : Session) (request : Request) : Exchange where
  before := session
  request := request
  answer := (session.step request).1
  after := (session.step request).2.1
  notices := (session.step request).2.2

/-- The session that a list of requests leads to. -/
def after (session : Session) : List Request → Session
  | [] => session
  | request :: rest => (session.exchange request).after.after rest

/-- The exchanges of a list of requests, each request as it stands. -/
def exchanges (session : Session) : List Request → List Exchange
  | [] => []
  | request :: rest => session.exchange request :: (session.exchange request).after.exchanges rest

/-- The exchanges of a list of requests, one press at a time. -/
def history (session : Session) (requests : List Request) : List Exchange :=
  session.exchanges (requests.flatMap Request.singles)

theorem after_append (session : Session) (first second : List Request) :
    session.after (first ++ second) = (session.after first).after second := by
  induction first generalizing session with
  | nil => rfl
  | cons request rest ih => exact ih _

theorem exchanges_concat (session : Session) (requests : List Request) (request : Request) :
    session.exchanges (requests ++ [request]) =
      session.exchanges requests ++ [(session.after requests).exchange request] := by
  induction requests generalizing session with
  | nil => rfl
  | cons first rest ih => exact congrArg (session.exchange first :: ·) (ih _)

theorem after_type (session : Session) (labels : List String) :
    (session.exchange (.type labels)).after = session.after (labels.map .pressLabel) := by
  induction labels generalizing session with
  | nil => rfl
  | cons label rest ih => exact ih (session.exchange (.pressLabel label)).after

/-- Typing leads where the presses of its labels lead. -/
theorem after_singles (session : Session) (requests : List Request) :
    session.after (requests.flatMap Request.singles) = session.after requests := by
  induction requests generalizing session with
  | nil => rfl
  | cons request rest ih =>
      rw [List.flatMap_cons, after_append, ih, after]
      cases request with
      | type labels =>
          rw [after_type]
          rfl
      | _ => rfl

theorem history_concat (session : Session) (requests : List Request) {request : Request}
    (single : request.singles = [request]) :
    session.history (requests ++ [request]) =
      session.history requests ++ [(session.after requests).exchange request] := by
  rw [history, List.flatMap_append, List.flatMap_singleton, single, exchanges_concat, after_singles]
  rfl

theorem exists_of_mem_exchanges {session : Session} {requests : List Request} {exchange : Exchange}
    (h : exchange ∈ session.exchanges requests) :
    ∃ before, ∃ request ∈ requests, exchange = Session.exchange before request := by
  induction requests generalizing session with
  | nil => cases h
  | cons request rest ih =>
      rcases List.mem_cons.mp h with rfl | hlater
      · exact ⟨session, request, List.mem_cons_self, rfl⟩
      · obtain ⟨before, later, hmem, hexchange⟩ := ih hlater
        exact ⟨before, later, List.mem_cons_of_mem _ hmem, hexchange⟩

/-- An exchange in a history is that of a single request to the session that met it. -/
theorem exists_of_mem_history {session : Session} {requests : List Request} {exchange : Exchange}
    (h : exchange ∈ session.history requests) :
    ∃ before request, request.isSingle = true ∧ exchange = Session.exchange before request := by
  obtain ⟨before, request, hmem, hexchange⟩ := exists_of_mem_exchanges h
  obtain ⟨whole, -, hsingle⟩ := List.mem_flatMap.mp hmem
  exact ⟨before, request, Request.isSingle_of_mem_singles hsingle, hexchange⟩

/-! ### What a single request does -/

theorem bindSlot_keyboard (session : Session) (slot : Nat) :
    ∃ bound, (session.bindSlot slot).2.keyboard = { session.keyboard with bound } := by
  unfold bindSlot
  split
  · exact ⟨_, rfl⟩
  · exact ⟨session.keyboard.bound, rfl⟩

theorem bindAll_keyboard (session : Session) (fields : List Field) :
    ∃ bound, (session.bindAll fields).2.keyboard = { session.keyboard with bound } := by
  induction fields generalizing session with
  | nil => exact ⟨session.keyboard.bound, rfl⟩
  | cons field rest ih =>
      obtain ⟨first, hfirst⟩ :=
        bindSlot_keyboard { session with fields := session.fields ++ [field] } session.fields.length
      obtain ⟨last, hlast⟩ := ih
        ({ session with fields := session.fields ++ [field] }.bindSlot session.fields.length).2
      refine ⟨last, ?_⟩
      rw [bindAll, hlast, hfirst]

theorem course_of_still {session : Session} {request : Request} {answer : Answer} {next : Session}
    (hstep : session.step request = (answer, next, []))
    (hmove : (session.exchange request).move = .rest)
    (kept : ∃ bound, next.keyboard = { session.keyboard with bound }) :
    (session.exchange request).Course := by
  refine .rest hmove ?_ ?_
  · rw [exchange, hstep]
  · rw [exchange, hstep]
    exact kept

theorem course_of_press {session : Session} {request : Request} {index : Nat}
    (named : request.index? session.keyboard.layout = some index)
    (hstep : session.step request =
      (.pressed (session.pressWith (session.keyboard.press index)).1,
        (session.pressWith (session.keyboard.press index)).2)) : (session.exchange request).Course := by
  cases found : session.keyboard.layout.key? index with
  | none =>
      rw [press_missing found] at hstep
      exact course_of_still hstep (by rw [exchange, hstep]; rfl) ⟨session.keyboard.bound, rfl⟩
  | some key =>
      rw [press_found found] at hstep
      refine .press index key named found ?_ ?_ ?_ <;>
        rw [exchange, hstep] <;> rfl

/-- Every single request takes one of the courses. -/
theorem course_exchange (session : Session) {request : Request} (single : request.isSingle = true) :
    (session.exchange request).Course := by
  have still : ∃ bound, session.keyboard = { session.keyboard with bound } :=
    ⟨session.keyboard.bound, rfl⟩
  cases request with
  | type labels => exact absurd single Bool.false_ne_true
  | «open» value onInput onClose => exact .open value (onInput.map .caller) onClose rfl rfl rfl
  | close => exact .close rfl rfl rfl
  | press index => exact course_of_press rfl rfl
  | pressLabel label =>
      cases named : session.keyboard.layout.indexOf? label with
      | none =>
          have hstep : session.step (.pressLabel label) =
              (.pressed (.error (.noSuchLabel label)), session, []) := by
            rw [step, Keyboard.pressLabel, named]
            rfl
          exact course_of_still hstep (by rw [exchange, hstep]; rfl) still
      | some index =>
          exact course_of_press named (by rw [step, Keyboard.pressLabel, named])
  | bind fields => exact course_of_still rfl rfl (bindAll_keyboard session fields)
  | rebind name =>
      cases found : session.slotOf? name with
      | none =>
          have hstep : session.step (.rebind name) = (.bound [], session, []) := by
            rw [step, found]
          exact course_of_still hstep (by rw [exchange, hstep]; rfl) still
      | some slot =>
          have hstep : session.step (.rebind name) =
              (.bound (session.bindSlot slot).1, (session.bindSlot slot).2, []) := by
            rw [step, found]
          exact course_of_still hstep (by rw [exchange, hstep]; rfl) (bindSlot_keyboard session slot)
  | focus id =>
      cases found : session.keyboard.bound[id]? with
      | none =>
          have hstep : session.step (.focus id) = (.refused (.noSuchField id), session, []) := by
            rw [step, Keyboard.focus, found]
          exact course_of_still hstep (by rw [exchange, hstep]; rfl) still
      | some slot =>
          have hstep : session.step (.focus id) = (.done, session.advanceOpening
              (session.keyboard.open (session.textOf slot) (some (.field slot)) none)) := by
            rw [step, Keyboard.focus, found]
          refine .open (session.textOf slot) (some (.field slot)) none ?_ ?_ ?_
          · simp only [Exchange.move, exchange, hstep, found]
          · rw [exchange, hstep]
          · rw [exchange, hstep]
  | edit name text =>
      cases found : session.slotOf? name with
      | none =>
          have hstep : session.step (.edit name text) = (.done, session, []) := by
            rw [step, found]
          exact course_of_still hstep (by rw [exchange, hstep]; rfl) still
      | some slot =>
          have hstep : session.step (.edit name text) = (.done,
              { session with
                fields := session.fields.modify slot fun field => { field with text } }, []) := by
            rw [step, found]
          exact course_of_still hstep (by rw [exchange, hstep]; rfl) still
  | blankDisplay => exact course_of_still rfl rfl still

@[simp] theorem observe_keyboard (session : Session) (event : Event) :
    (session.observe event).1.keyboard = session.keyboard := by
  unfold observe
  split <;> rfl

@[simp] theorem observeAll_keyboard (session : Session) (events : List Event) :
    (session.observeAll events).1.keyboard = session.keyboard := by
  induction events generalizing session with
  | nil => rfl
  | cons event rest ih =>
      rw [observeAll, ih, observe_keyboard]

theorem advance_keyboard (session : Session) (outcome : Keyboard × List Event) :
    (session.advance outcome).1.keyboard = outcome.1 :=
  observeAll_keyboard _ _

theorem advanceOpening_keyboard (session : Session) (outcome : Keyboard × List Event) :
    (session.advanceOpening outcome).1.keyboard = outcome.1 :=
  observeAll_keyboard _ _

/-! ### Induction over runs -/

/-- What holds of a session without a past and is passed on by every single request holds along a run. -/
theorem history_induction {P : List Exchange → Session → Prop} {session : Session} (start : P [] session)
    (pass : ∀ past session request, request.isSingle = true → P past session →
      P (past ++ [session.exchange request]) (session.exchange request).after)
    (requests : List Request) : P (session.history requests) (session.after requests) := by
  rw [history, ← after_singles]
  have single : ∀ request ∈ requests.flatMap Request.singles, request.isSingle = true := by
    intro request hrequest
    obtain ⟨whole, -, hwhole⟩ := List.mem_flatMap.mp hrequest
    exact Request.isSingle_of_mem_singles hwhole
  generalize requests.flatMap Request.singles = singles at single
  -- from the back, since the past of an exchange is what came before it
  induction singles using List.reverseRecOn with
  | nil => exact start
  | append_singleton init last ih =>
      rw [exchanges_concat, after_append]
      refine pass _ _ _ (single last (by simp)) (ih fun request h => single request ?_)
      exact List.mem_append_left _ h

/-- What is passed on along a run holds on both sides of each of its exchanges. -/
theorem holds_around {P : List Exchange → Session → Prop} {session : Session} (start : P [] session)
    (pass : ∀ past session request, request.isSingle = true → P past session →
      P (past ++ [session.exchange request]) (session.exchange request).after)
    {requests : List Request} {past future : List Exchange} {exchange : Exchange}
    (hrun : session.history requests = past ++ exchange :: future) :
    P past exchange.before ∧ exchange.Course ∧ P (past ++ [exchange]) exchange.after := by
  refine (history_induction (P := fun history last => P history last ∧
    ∀ past exchange future, history = past ++ exchange :: future →
      P past exchange.before ∧ exchange.Course ∧ P (past ++ [exchange]) exchange.after)
    ⟨start, by simp⟩ ?_ requests).2 past exchange future hrun
  rintro history last request single ⟨hlast, around⟩
  refine ⟨pass history last request single hlast, ?_⟩
  intro past exchange future heq
  rcases concat_eq_append_cons heq with ⟨-, rfl, rfl⟩ | ⟨between, -, hhistory⟩
  · exact ⟨hlast, course_exchange last single, pass history last request single hlast⟩
  · exact around past exchange between hhistory

end Session

end ScreenKeyboard.Keyboard
