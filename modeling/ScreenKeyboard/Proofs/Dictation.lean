import ScreenKeyboard.Proofs.DoubleTurns
import ScreenKeyboard.Proofs.Navigation

/-!
What a run of the terminal leaves in its editor. `typedBy` says what keys type that are pressed one after the other,
from the keys and the state of caps lock alone. The editor of the terminal holds what an editor holds that was given
these values and nothing else (`dictation_along_run`), however often the keyboard was dismissed and brought back.
-/

namespace ScreenKeyboard

def Outcome.typed? : Outcome → Option String
  | typed value => some value
  | dismissed => none

/-- What keys type that are pressed one after the other, with caps lock engaged before or not. -/
def typedBy (engaged : Bool) : List Key → List String
  | [] => []
  | key :: rest => (key.outcomeAfter engaged.toNat).typed?.toList ++ typedBy (engaged ^^ key.isToggle) rest

/-- For a key that is no capital it does not matter how often caps lock was turned over, only whether it is engaged. -/
theorem Key.outcomeAfter_engaged {key : Key} (h : key.isCapital = false) (n : Nat) :
    key.outcomeAfter (decide (n % 2 = 1)).toNat = key.outcomeAfter n := by
  refine key.outcomeAfter_congr ((key.legendAfter_eq_iff ?_).mpr (Or.inr h))
  by_cases hodd : n % 2 = 1
  · simp [hodd]
  · simp [hodd]
    omega

theorem typedBy_append (engaged : Bool) (pressed : Option Key) (rest : List Key) :
    typedBy engaged (pressed.toList ++ rest) =
      typedBy engaged pressed.toList ++ typedBy (engaged ^^ pressed.any Key.isToggle) rest := by
  cases pressed <;> simp [typedBy]

theorem Layout.not_isCapital_qwerty : ∀ key ∈ Layout.qwerty.keys, key.isCapital = false := by
  decide

namespace Keyboard

/-- An input listener is told what a press types, and is told nothing by a press that dismisses. -/
theorem pressing_told {keyboard : Keyboard} {listener : Listener} (h : keyboard.onInput = some listener)
    (index : Nat) (key : Key) :
    (keyboard.pressing index key).2.filterMap Event.argument? =
      (keyboard.actuate index key).1.typed?.toList := by
  rw [← arguments_of_calls, pressing, List.filter_cons_of_neg Bool.false_ne_true, actuate_calls, h]
  cases (keyboard.actuate index key).1 with
  | typed value => rfl
  | dismissed => cases keyboard.onClose <;> rfl

theorem actuate_visible (keyboard : Keyboard) (index : Nat) (key : Key) :
    (keyboard.actuate index key).2.1.visible = (keyboard.visible && key.role ≠ .done) := by
  cases hrole : key.role <;> simp only [actuate, hrole] <;> simp [emit, turnCapsLock, close]

end Keyboard

namespace Terminal.App

/-- The keys of the keyboard that keys of the terminal press. -/
def presses (app : App) : List TerminalKey → List Key
  | [] => []
  | key :: rest => (app.pressed? key).toList ++ (app.handle key).presses rest

/-- Of two apps, that they have the same text, the same cursor and the same keys. -/
structure SameText (app other : App) : Prop where
  editor_eq : other.editor = app.editor
  capsLock_eq : other.keyboard.capsLock = app.keyboard.capsLock
  legends_eq : other.keyboard.legends = app.keyboard.legends
  texts_eq : other.display.texts = app.display.texts

theorem pressSelected_quit (app : App) : app.pressSelected.quit = app.quit := by
  unfold pressSelected
  split
  · rfl
  · rw [observe_eq]

/-- Only escape ends the app, and nothing takes that back. -/
theorem handle_quit (app : App) (key : TerminalKey) :
    (app.handle key).quit = true ↔ app.quit = true ∨ key = .escape := by
  unfold handle
  split_ifs
  · cases key <;> simp [moveVertically, pressSelected_quit]
  · cases key <;> simp [openKeyboard_eq]

theorem after_quit (app : App) (keys : List TerminalKey) :
    (app.after keys).quit = true ↔ app.quit = true ∨ .escape ∈ keys := by
  induction keys generalizing app with
  | nil => simp [after]
  | cons key rest ih =>
      have hrest := ih (app.handle key)
      rw [handle_quit, or_assoc] at hrest
      rw [List.mem_cons, eq_comm (a := TerminalKey.escape)]
      exact hrest

namespace Attached

variable {layout : Layout} {n : Nat} {app : App}

theorem press_editor (h : Attached layout n app) (plain : ∀ key ∈ layout.keys, key.isCapital = false) {key : Key}
    (found : layout.key? app.selected = some key) (message : String) :
    ({ app with keyboard := (app.keyboard.pressing app.selected key).1, message }.observe
      (app.keyboard.pressing app.selected key).2).editor =
        (key.outcomeAfter app.keyboard.capsLock.toNat).typed?.toList.foldl LineEditor.apply app.editor := by
  have hcaps := Key.outcomeAfter_engaged (plain key (List.mem_of_getElem? found)) n
  rw [← h.mirrors.turned.capsLock_eq] at hcaps
  rw [observe_eq, hcaps, ← h.mirrors.turned.outcome_eq found, ← Keyboard.pressing_told h.onInput_eq]

/-- The editor takes what the pressed key types, if a key is pressed and types. -/
theorem handle_editor (h : Attached layout n app) (plain : ∀ key ∈ layout.keys, key.isCapital = false)
    (key : TerminalKey) :
    (app.handle key).editor =
      (typedBy app.keyboard.capsLock (app.pressed? key).toList).foldl LineEditor.apply app.editor := by
  cases h.course key with
  | press actuated pressed found left =>
      rw [left, pressed, h.press_editor plain found, Option.toList_some, typedBy, typedBy, List.append_nil]
  | reopen hidden entered left =>
      rw [left, pressed?_hidden key hidden, openKeyboard_eq]
      rfl
  | rest other selected selected_lt quit left =>
      rw [left, pressed?_rest other]
      rfl

theorem handle_capsLock (h : Attached layout n app) (key : TerminalKey) :
    (app.handle key).keyboard.capsLock = (app.keyboard.capsLock ^^ (app.pressed? key).any Key.isToggle) := by
  rw [(h.handle key).mirrors.turned.capsLock_eq]
  cases (app.pressed? key).any Key.isToggle with
  | true => rw [if_pos rfl, Bool.xor_true, h.mirrors.turned.not_capsLock]
  | false => rw [if_neg Bool.false_ne_true, Bool.xor_false, h.mirrors.turned.capsLock_eq]

theorem after_editor (h : Attached layout n app) (plain : ∀ key ∈ layout.keys, key.isCapital = false)
    (keys : List TerminalKey) :
    (app.after keys).editor =
      (typedBy app.keyboard.capsLock (app.presses keys)).foldl LineEditor.apply app.editor := by
  induction keys generalizing n app with
  | nil => rfl
  | cons key rest ih =>
      rw [presses, typedBy_append, List.foldl_append, ← h.handle_editor plain, ← h.handle_capsLock]
      exact ih (h.handle key)

/-- While caps lock is left alone, nothing is drawn on the keys. -/
theorem sameText {other : App} (h : Attached layout n app) (hother : Attached layout n other)
    (heditor : other.editor = app.editor) : app.SameText other where
  editor_eq := heditor
  capsLock_eq := hother.mirrors.turned.capsLock_eq.trans h.mirrors.turned.capsLock_eq.symm
  legends_eq := hother.mirrors.turned.legends_eq.trans h.mirrors.turned.legends_eq.symm
  texts_eq := hother.mirrors.texts_glyphs.trans h.mirrors.texts_glyphs.symm

theorem handle_visible (h : Attached layout n app) {key : TerminalKey} {actuated : Key}
    (pressed : app.pressed? key = some actuated) :
    (app.handle key).keyboard.visible = decide (actuated.role ≠ .done) := by
  cases h.course key with
  | press other other_pressed found left =>
      cases pressed.symm.trans other_pressed
      have hvisible : app.keyboard.visible = true := (Option.ite_none_right_eq_some.mp pressed).1.1
      rw [left, observe_eq]
      exact (app.keyboard.actuate_visible app.selected actuated).trans (by rw [hvisible, Bool.true_and])
  | reopen hidden entered left => cases pressed.symm.trans (pressed?_hidden key hidden)
  | rest other selected selected_lt quit left => cases pressed.symm.trans (pressed?_rest other)

theorem sameText_dismissed (h : Attached layout n app) (plain : ∀ key ∈ layout.keys, key.isCapital = false)
    {key : TerminalKey} {actuated : Key} (pressed : app.pressed? key = some actuated) (hdone : actuated.role = .done) :
    app.SameText (app.handle key) := by
  have htoggle : (app.pressed? key).any Key.isToggle = false := by
    rw [pressed, Option.any_some, Key.isToggle, hdone]
    rfl
  have hleft := h.handle key
  rw [htoggle, if_neg Bool.false_ne_true] at hleft
  refine h.sameText hleft ?_
  rw [h.handle_editor plain, pressed, Option.toList_some, typedBy, Key.outcomeAfter, hdone]
  rfl

end Attached

/-- The editor of the terminal holds the initial text with the values that were typed since: those of the keys that
were selected when enter came while the keyboard was visible, each as caps lock then was. Dismissing the keyboard and
bringing it back change no text, no cursor and no key; nor does any key of the terminal but enter. Escape ends the app,
whether the keyboard is visible or not, and for good. -/
theorem dictation_along_run (keys : List TerminalKey) :
    let app := start.after keys
    app.editor =
      (typedBy false (start.presses keys)).foldl LineEditor.apply (.ofText "root@target:~# ".toList) ∧
    (∀ actuated, app.pressed? .enter = some actuated →
      (app.handle .enter).keyboard.visible = decide (actuated.role ≠ .done) ∧
      (actuated.role = .done → app.SameText (app.handle .enter))) ∧
    (app.keyboard.visible = false →
      (app.handle .enter).keyboard.visible = true ∧ app.SameText (app.handle .enter)) ∧
    (∀ key, key ≠ .enter → (app.handle key).keyboard = app.keyboard ∧ (app.handle key).display = app.display ∧
      (app.handle key).editor = app.editor) ∧
    (app.quit = true ↔ .escape ∈ keys) := by
  intro app
  obtain ⟨n, h⟩ : ∃ n, Attached Layout.qwerty n app := attached_start.after keys
  refine ⟨?_, ?_, ?_, ?_, ?_⟩
  · have hstart : start.editor = .ofText "root@target:~# ".toList := by
      rw [start, openKeyboard_eq]
    rw [← hstart]
    exact attached_start.after_editor Layout.not_isCapital_qwerty keys
  · intro actuated pressed
    exact ⟨h.handle_visible pressed, h.sameText_dismissed Layout.not_isCapital_qwerty pressed⟩
  · intro hidden
    have left : app.handle .enter = app.openKeyboard := by
      rw [handle, hidden, if_neg Bool.false_ne_true]
    rw [left]
    refine ⟨?_, h.sameText h.openKeyboard ?_⟩
    · rw [openKeyboard_eq]
      rfl
    · rw [openKeyboard_eq]
  · intro key hother
    cases h.course key with
    | press actuated pressed found left => cases pressed.symm.trans (Attached.pressed?_rest hother)
    | reopen hidden entered left => exact absurd entered hother
    | rest other selected selected_lt quit left =>
        rw [left]
        exact ⟨rfl, rfl, rfl⟩
  · rw [after_quit]
    simp [start, openKeyboard_eq]

end Terminal.App

end ScreenKeyboard
