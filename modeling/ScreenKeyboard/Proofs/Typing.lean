import ScreenKeyboard.Proofs.Legends
import ScreenKeyboard.Proofs.Listeners

/-!
What the keys type along a run. `Key.outcomeAfter` says what a press gives from the key and the number of
turns of caps lock before it, with no keyboard in sight; `typing_along_run` says that the keyboard, which
reads its rewritten legends, never gives anything else, and that value and input listener agree with it.
A key made from a label and drawn without an icon types what it shows (`typed_as_shown`).
-/

namespace ScreenKeyboard

/-- What a press of the key gives after `n` turns of caps lock. -/
def Key.outcomeAfter (key : Key) (n : Nat) : Outcome :=
  match key.role with
  | .done => .dismissed
  | .space => .typed " "
  | .literal | .modifier _ =>
    .typed (if key.icon.isSome then key.label else Legend.afterTurns key.label n)
  | .backspace | .enter | .tab | .arrow _ | .capsLock => .typed key.label

/-- A key made from a label types what it shows. If it shows an icon, it types its label, but for the space
and for the key that dismisses. -/
theorem Key.outcomeAfter_ofLabel (label : String) (n : Nat) :
    (Key.ofLabel label).outcomeAfter n =
      match (Key.ofLabel label).icon with
      | none => .typed ((Key.ofLabel label).legendAfter n)
      | some _ => if label = "done" then .dismissed else .typed (if label = "Space" then " " else label) := by
  unfold Key.ofLabel
  split <;> rfl

theorem Layout.key?_ofLabels (labels : List String) (index : Nat) :
    (Layout.ofLabels labels).key? index = labels[index]?.map Key.ofLabel :=
  List.getElem?_map

/-- The value that a press with this outcome leaves. -/
def Outcome.value : Outcome → String
  | typed value => value
  | dismissed => ""

def Event.argument? : Event → Option String
  | .input _ value => some value
  | _ => none

namespace Keyboard

def Notice.argument? : Notice → Option String
  | .heard _ _ value => some value
  | .wrote _ value => some value
  | _ => none

/-- The value that an exchange gave the keyboard, if it gave it one. -/
def Exchange.value? (exchange : Exchange) : Option String :=
  match exchange.move with
  | .press outcome => some outcome.value
  | .open value _ _ => some value
  | .close => some ""
  | .rest => none

/-- The value that a history leaves in a keyboard that began without one. -/
def lastValue (history : List Exchange) : String :=
  (history.filterMap Exchange.value?).getLast?.getD ""

theorem lastValue_concat (past : List Exchange) (exchange : Exchange) :
    lastValue (past ++ [exchange]) = exchange.value?.getD (lastValue past) := by
  rw [lastValue, List.filterMap_append]
  cases hvalue : exchange.value? with
  | none => simp [hvalue, lastValue]
  | some value => simp [hvalue]

/-! ### One press -/

section Press

variable {layout : Layout} {n : Nat} {keyboard : Keyboard}

theorem Turned.typed_eq (h : Turned layout n keyboard) {index : Nat} {key : Key}
    (found : layout.key? index = some key) (hicon : key.icon = none) :
    keyboard.typed index key = Legend.afterTurns key.label n := by
  have hlegend : keyboard.legends[index]? = some (key.legendAfter n) := by
    rw [← legend?, h.legend?_eq, found, Option.map_some]
  rw [typed, hicon, hlegend]
  simp [Key.legendAfter, hicon]

theorem Turned.outcome_eq (h : Turned layout n keyboard) {index : Nat} {key : Key}
    (found : layout.key? index = some key) : (keyboard.actuate index key).1 = key.outcomeAfter n := by
  have htyped : keyboard.typed index key =
      if key.icon.isSome then key.label else Legend.afterTurns key.label n := by
    cases hicon : key.icon with
    | none => rw [h.typed_eq found hicon, Option.isSome_none, if_neg Bool.false_ne_true]
    | some icon => rw [typed, hicon, Option.isSome_some, if_pos rfl, if_pos rfl]
  cases hrole : key.role <;> simp only [Keyboard.actuate, hrole, Key.outcomeAfter, htyped]

theorem actuate_value (keyboard : Keyboard) (index : Nat) (key : Key) :
    (keyboard.actuate index key).2.1.value = (keyboard.actuate index key).1.value := by
  cases hrole : key.role <;> simp only [actuate, hrole] <;> rfl

theorem arguments_of_calls (events : List Event) :
    (events.filter Event.isCall).filterMap Event.argument? = events.filterMap Event.argument? := by
  rw [List.filterMap_filter]
  congr 1
  funext event
  cases event <;> rfl

/-- A press tells the input listener what the key types, and tells it once. -/
theorem pressing_arguments {index : Nat} {key : Key} {value : String}
    (houtcome : (keyboard.actuate index key).1 = .typed value) :
    (keyboard.pressing index key).2.filterMap Event.argument? =
      (keyboard.onInput.map fun _ => value).toList := by
  have hcalls := keyboard.actuate_calls index key
  rw [houtcome] at hcalls
  rw [← arguments_of_calls, pressing, List.filter_cons_of_neg Bool.false_ne_true, hcalls]
  cases keyboard.onInput <;> rfl

end Press

/-! ### Runs -/

theorem observeAll_arguments (session : Session) (events : List Event) :
    (session.observeAll events).2.filterMap Notice.argument? = events.filterMap Event.argument? := by
  induction events generalizing session with
  | nil => rfl
  | cons event rest ih =>
      have hevent : (session.observe event).2.argument? = event.argument? := by
        unfold Session.observe
        split <;> rfl
      rw [Session.observeAll, List.filterMap_cons, List.filterMap_cons, hevent, ih]

namespace Session

theorem valued_exchange (past : List Exchange) (session : Session) (request : Request)
    (single : request.isSingle = true) (h : session.keyboard.value = lastValue past) :
    (session.exchange request).after.keyboard.value = lastValue (past ++ [session.exchange request]) := by
  rw [lastValue_concat]
  cases course_exchange session single with
  | press index key named found moved left noticed =>
      rw [left, advance_keyboard, Exchange.value?, moved]
      exact actuate_value session.keyboard index key
  | «open» value onInput onClose moved left noticed =>
      rw [left, advanceOpening_keyboard, Exchange.value?, moved]
      rfl
  | close moved left noticed =>
      rw [left, advance_keyboard, Exchange.value?, moved]
      rfl
  | rest moved silent kept =>
      obtain ⟨bound, hbound⟩ := kept
      rw [hbound, Exchange.value?, moved]
      exact h

/-- Along every run, a press gives what the key and the number of turns before it say. What is typed becomes
the value and is told to the input listener, if there is one, and once. What a run leaves as the value is
what the last exchange that set it gave. -/
theorem typing_along_run (layout : Layout) (forgetful : Bool) (requests : List Request) :
    let session := (start layout forgetful).1
    (∀ past exchange future key, session.history requests = past ++ exchange :: future →
      exchange.pressed? layout = some key →
        exchange.answer = .pressed (.ok (key.outcomeAfter (turns layout past))) ∧
        ∀ value, key.outcomeAfter (turns layout past) = .typed value →
          exchange.after.keyboard.value = value ∧
          exchange.notices.filterMap Notice.argument? =
            (exchange.before.keyboard.onInput.map fun _ => value).toList) ∧
    (session.after requests).keyboard.value = lastValue (session.history requests) := by
  intro session
  refine ⟨?_, ?_⟩
  · intro past exchange future key hrun hpressed
    obtain ⟨hturned, course, -⟩ :=
      holds_around (turned_start layout forgetful) turned_exchange hrun
    obtain ⟨index, found, moved, left, noticed⟩ := course.of_pressed hturned.layout_eq hpressed
    have houtcome := hturned.outcome_eq found
    refine ⟨by rw [Exchange.answer_of_move moved, houtcome], ?_⟩
    intro value hvalue
    rw [hvalue] at houtcome
    constructor
    · rw [left, advance_keyboard, pressing, actuate_value, houtcome]
      rfl
    · rw [noticed, advance, observeAll_arguments, pressing_arguments houtcome]
  · exact history_induction (P := fun past session => session.keyboard.value = lastValue past) rfl
      valued_exchange requests

/-- A press of a key that the layout has is answered with what the key then types. -/
theorem answer_press {layout : Layout} {n : Nat} {session : Session} (h : Turned layout n session.keyboard)
    {index : Nat} {key : Key} (found : layout.key? index = some key) :
    (session.exchange (.press index)).answer = .pressed (.ok (key.outcomeAfter n)) := by
  rw [← h.outcome_eq found, exchange, step, press_found (h.layout_eq ▸ found)]
  rfl

/-- Along every run on a layout made from labels, a press of a key without icon gives the text that is on the
key just then. A press of a key with an icon gives its label, whatever the state of caps lock, but for the space
and for the key that dismisses. -/
theorem typed_as_shown (labels : List String) (forgetful : Bool) (requests : List Request)
    (index : Fin labels.length) :
    let label := labels[index]
    let session := (start (Layout.ofLabels labels) forgetful).1.after requests
    session.keyboard.layout.key? index = some (Key.ofLabel label) ∧
    ∃ shown, session.keyboard.legend? index = some shown ∧
      (session.exchange (.press index)).answer = .pressed (.ok (match (Key.ofLabel label).icon with
        | none => .typed shown
        | some _ => if label = "done" then .dismissed else .typed (if label = "Space" then " " else label))) := by
  intro label session
  have found : (Layout.ofLabels labels).key? index = some (Key.ofLabel label) := by
    rw [Layout.key?_ofLabels, List.getElem?_eq_getElem index.isLt, Option.map_some]
    rfl
  have hturned := turned_after (Layout.ofLabels labels) forgetful requests
  refine ⟨by rw [hturned.layout_eq, found], _, by rw [hturned.legend?_eq, found, Option.map_some], ?_⟩
  rw [answer_press hturned found, Key.outcomeAfter_ofLabel]

end Session

end Keyboard

end ScreenKeyboard
