import ScreenKeyboard.Keyboard.Basic
import ScreenKeyboard.Display
import ScreenKeyboard.Field

/-!
A keyboard in use: the keyboard, its display and the fields of the host that it may write. The keyboard
only reads a field when the field is focused and only writes through its input listener, so the fields and
the display follow from the events of each step, taken in order.
-/

namespace ScreenKeyboard

namespace Keyboard

structure Session where
  keyboard : Keyboard
  display : Display
  /-- Every field that was ever made; a field's position is its slot. -/
  fields : List Field
  /-- Calls of the input listener since the keyboard was last opened. -/
  inputCalls : Nat
  /-- Calls of the close listener since the keyboard was last opened. -/
  closeCalls : Nat
  deriving DecidableEq, Repr

/-- What the host notices of a step. -/
inductive Notice
  | draw (command : Draw)
  /-- The caller's input listener is called, for the `count`-th time since it was installed. -/
  | heard (name : String) (count : Nat) (value : String)
  | dismissed (name : String) (count : Nat)
  | wrote (field : String) (value : String)
  | log (record : Record)
  deriving DecidableEq, Repr

/-- What is done to a keyboard in use. -/
inductive Request
  | open (value : String) (onInput onClose : Option String)
  | close
  | press (index : Nat)
  | pressLabel (label : String)
  /-- Presses several keys by label, going on after a refusal. -/
  | type (labels : List String)
  /-- Makes fields and binds those that opt in. -/
  | bind (fields : List Field)
  /-- Binds the latest field of this name once more. -/
  | rebind (name : String)
  | focus (id : Nat)
  /-- The host itself changes the text of its latest field of this name. -/
  | edit (name text : String)
  /-- The host itself blanks every text on the display. -/
  | blankDisplay
  deriving DecidableEq, Repr

inductive Answer
  | done
  | pressed (outcome : Except Refusal Outcome)
  | typed (outcomes : List (Except Refusal Outcome))
  | bound (ids : List Nat)
  | refused (refusal : Refusal)

namespace Session

/-- A session around a keyboard that is being built, and what is noticed of the building. -/
def start (layout : Layout) (forgetful : Bool) : Session × List Notice :=
  let keyboard := Keyboard.ofLayout layout forgetful
  ({ keyboard
     display := Display.blank.follow Key.legend keyboard.mounting
     fields := []
     inputCalls := 0
     closeCalls := 0 },
    [.draw (.mount layout), .log (.mounted layout.size)])

/-- Lets the display, the fields and the counts follow one event. -/
def observe (session : Session) : Event → Session × Notice
  | .draw command =>
    ({ session with display := session.display.draw Key.legend command }, .draw command)
  | .input (.caller name) value =>
    ({ session with inputCalls := session.inputCalls + 1 }, .heard name (session.inputCalls + 1) value)
  | .input (.field slot) value =>
    ({ session with
        fields := session.fields.modify slot (·.write value)
        inputCalls := session.inputCalls + 1 },
      .wrote ((session.fields[slot]?.map (·.name)).getD "") value)
  | .closed name =>
    ({ session with closeCalls := session.closeCalls + 1 }, .dismissed name (session.closeCalls + 1))
  | .log record => (session, .log record)

def observeAll (session : Session) : List Event → Session × List Notice
  | [] => (session, [])
  | event :: rest =>
    let (next, notice) := session.observe event
    let (last, notices) := next.observeAll rest
    (last, notice :: notices)

/-- The session after its keyboard took a step with these events. -/
def advance (session : Session) (outcome : Keyboard × List Event) : Session × List Notice :=
  { session with keyboard := outcome.1 }.observeAll outcome.2

/-- As `advance`, with listeners that were installed by this step and have not been called yet. -/
def advanceOpening (session : Session) (outcome : Keyboard × List Event) : Session × List Notice :=
  { session with inputCalls := 0, closeCalls := 0 }.advance outcome

def pressWith (session : Session) (outcome : Except Refusal (Outcome × Keyboard × List Event)) :
    Except Refusal Outcome × Session × List Notice :=
  match outcome with
  | .error refusal => (.error refusal, session, [])
  | .ok (result, keyboard, events) =>
    let (next, notices) := session.advance (keyboard, events)
    (.ok result, next, notices)

def typeAll (session : Session) : List String → List (Except Refusal Outcome) × Session × List Notice
  | [] => ([], session, [])
  | label :: rest =>
    let (outcome, next, notices) := session.pressWith (session.keyboard.pressLabel label)
    let (outcomes, last, more) := next.typeAll rest
    (outcome :: outcomes, last, notices ++ more)

/-- Binds the field in a slot, if it opts in. -/
def bindSlot (session : Session) (slot : Nat) : List Nat × Session :=
  if session.fields[slot]?.any (·.optsIn) then
    let (id, keyboard) := session.keyboard.bind slot
    ([id], { session with keyboard })
  else ([], session)

def bindAll (session : Session) : List Field → List Nat × Session
  | [] => ([], session)
  | field :: rest =>
    let (ids, next) := { session with fields := session.fields ++ [field] }.bindSlot session.fields.length
    let (more, last) := next.bindAll rest
    (ids ++ more, last)

/-- The slot of the latest field of this name. -/
def slotOf? (session : Session) (name : String) : Option Nat :=
  (session.fields.reverse.findIdx? (·.name = name)).map (session.fields.length - 1 - ·)

def textOf (session : Session) (slot : Nat) : String :=
  (session.fields[slot]?.map (·.text)).getD ""

def step (session : Session) : Request → Answer × Session × List Notice
  | .open value onInput onClose =>
    (.done, session.advanceOpening (session.keyboard.open value (onInput.map .caller) onClose))
  | .close => (.done, session.advance session.keyboard.close)
  | .press index =>
    let (outcome, after) := session.pressWith (session.keyboard.press index)
    (.pressed outcome, after)
  | .pressLabel label =>
    let (outcome, after) := session.pressWith (session.keyboard.pressLabel label)
    (.pressed outcome, after)
  | .type labels =>
    let (outcomes, after) := session.typeAll labels
    (.typed outcomes, after)
  | .bind fields =>
    let (ids, next) := session.bindAll fields
    (.bound ids, next, [])
  | .rebind name =>
    match session.slotOf? name with
    | none => (.bound [], session, [])
    | some slot =>
      let (ids, next) := session.bindSlot slot
      (.bound ids, next, [])
  | .focus id =>
    match session.keyboard.focus id session.textOf with
    | .error refusal => (.refused refusal, session, [])
    | .ok outcome => (.done, session.advanceOpening outcome)
  | .edit name text =>
    match session.slotOf? name with
    | none => (.done, session, [])
    | some slot =>
      (.done, { session with fields := session.fields.modify slot fun field => { field with text } }, [])
  | .blankDisplay =>
    (.done,
      { session with display := { session.display with texts := session.display.texts.map fun _ => "" } },
      [])

end Session

end Keyboard

end ScreenKeyboard
