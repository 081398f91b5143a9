import ScreenKeyboard.Proofs.Displays
import ScreenKeyboard.Proofs.Editing
import ScreenKeyboard.Proofs.Rows
import ScreenKeyboard.Proofs.Typing
import ScreenKeyboard.Terminal.App

/-!
The selection of the terminal's keyboard. Moving it subtracts from indices and looks rows and keys up without a check,
which is sound because every key is in one row. `handle?` is the app with all checks; it takes every list of keys to
where the unchecked app goes (`selection_along_run`). What carries this along a run is `Attached`: the display and the
editor follow the keyboard, which reports to the editor, and a key is selected.
-/

namespace ScreenKeyboard

/-! ### Moving between rows -/

/-- The number of the row below or above a row of `count` rows, or of the row itself if there is none. -/
def Layout.neighbour (count row : Nat) (down : Bool) : Nat :=
  if down then if row + 1 < count then row + 1 else row
  else if 0 < row then row - 1 else row

/-! ### Drawing -/

namespace Display

/-- As `draw`, but nothing if the display lacks the key that the command is about. -/
def draw? (face : Key → String) (display : Display) (command : Draw) : Option Display :=
  match command with
  | .rewrite index _ => if index < display.texts.length then some (display.draw face command) else none
  | .light index _ => if index < display.lit.length then some (display.draw face command) else none
  | _ => some (display.draw face command)

variable {size : Nat} {display : Display}

theorem draw?_eq {command : Draw} (h : command.Fits size) (htexts : display.texts.length = size)
    (hlit : display.lit.length = size) (face : Key → String) :
    display.draw? face command = some (display.draw face command) := by
  cases command with
  | rewrite index legend => exact if_pos (htexts ▸ h)
  | light index lit => exact if_pos (hlit ▸ h)
  | _ => rfl

/-- Events that build no keys leave the rows and the widths as they are. -/
theorem built_follow {events : List Event} (h : ∀ command ∈ events.filterMap Event.draw?, command.Fits size)
    (face : Key → String) (display : Display) :
    (display.follow face events).rows = display.rows ∧ (display.follow face events).wide = display.wide := by
  rw [follow_eq]
  generalize events.filterMap Event.draw? = commands at h
  induction commands generalizing display with
  | nil => exact ⟨rfl, rfl⟩
  | cons command rest ih =>
      have hcommand : (display.draw face command).rows = display.rows ∧
          (display.draw face command).wide = display.wide := by
        cases command with
        | mount layout => exact absurd (h _ List.mem_cons_self) id
        | _ => exact ⟨rfl, rfl⟩
      obtain ⟨hrows, hwide⟩ := ih (display.draw face command)
        fun later hlater => h later (List.mem_cons_of_mem _ hlater)
      exact ⟨hrows.trans hcommand.1, hwide.trans hcommand.2⟩

theorem rows_follow {events : List Event} (h : ∀ command ∈ events.filterMap Event.draw?, command.Fits size)
    (face : Key → String) (display : Display) : (display.follow face events).rows = display.rows :=
  (built_follow h face display).1

end Display

namespace Terminal

/-- The difference of indices, if it is not negative. -/
def minus? (index other : Nat) : Option Nat :=
  if other ≤ index then some (index - other) else none

namespace App

/-- As `vertical`, but nothing if there is no such row or an index would be negative. -/
def vertical? (rows : List Row) (row selected : Nat) (down : Bool) : Option Nat := do
  let here ← rows[row]?
  let column ← minus? selected here.start
  let there ← rows[if down then min (row + 1) (rows.length - 1) else row - 1]?
  let last ← minus? there.stop 1
  some (min (there.start + column) last)

section Rows

variable {layout : Layout} {selected row : Nat} {here : Row}

theorem exists_rowOf (h : selected < layout.size) :
    ∃ row here, layout.rows.findIdx? (·.contains selected) = some row ∧ layout.rows[row]? = some here ∧
      here.contains selected = true := by
  cases hfound : layout.rows.findIdx? (·.contains selected) with
  | none =>
      obtain ⟨row, hrow, hcontains⟩ := layout.cut_rows.exists_contains (Nat.zero_le _) h
      rw [List.findIdx?_eq_none_iff.mp hfound row hrow] at hcontains
      cases hcontains
  | some row =>
      obtain ⟨hlt, hcontains, -⟩ := List.findIdx?_eq_some_iff_getElem.mp hfound
      exact ⟨row, layout.rows[row], rfl, List.getElem?_eq_getElem hlt, hcontains⟩

/-- A move from a row leads to its neighbour, into the same column or onto the last key of a shorter row. -/
theorem vertical_spec (hrow : layout.rows[row]? = some here) (hselected : here.contains selected = true)
    (down : Bool) :
    ∃ there, layout.rows[Layout.neighbour layout.rows.length row down]? = some there ∧
      vertical layout.rows row selected down =
        there.start + min (selected - here.start) (there.stop - there.start - 1) ∧
      vertical? layout.rows row selected down = some (vertical layout.rows row selected down) ∧
      there.contains (vertical layout.rows row selected down) = true := by
  obtain ⟨hlt, -⟩ := List.getElem?_eq_some_iff.mp hrow
  have htarget : (if down then min (row + 1) (layout.rows.length - 1) else row - 1) =
      Layout.neighbour layout.rows.length row down := by
    unfold Layout.neighbour
    split_ifs <;> omega
  have hneighbour : Layout.neighbour layout.rows.length row down < layout.rows.length := by
    unfold Layout.neighbour
    split_ifs <;> omega
  have hthere := List.getElem?_eq_getElem hneighbour
  have hnonempty := layout.cut_rows.nonempty _ (List.getElem_mem hneighbour)
  rw [Row.contains_iff] at hselected
  refine ⟨_, hthere, ?_⟩
  generalize layout.rows[Layout.neighbour layout.rows.length row down] = there at hthere hnonempty
  have hvertical : vertical layout.rows row selected down =
      min (there.start + (selected - here.start)) (there.stop - 1) := by
    simp only [vertical, htarget, hrow, hthere]
  refine ⟨by omega, ?_, by rw [Row.contains_iff]; omega⟩
  simp only [vertical?, htarget, hrow, hthere, hvertical, minus?, Option.bind_eq_bind, Option.bind_some,
    if_pos hselected.1]
  rw [if_pos (by omega), Option.bind_some]

theorem vertical_lt (hrow : layout.rows[row]? = some here) (hselected : here.contains selected = true)
    (down : Bool) : vertical layout.rows row selected down < layout.size := by
  obtain ⟨there, hthere, -, -, hcontains⟩ := vertical_spec hrow hselected down
  exact layout.cut_rows.lt_size (List.mem_of_getElem? hthere) hcontains

end Rows

/-! ### The app with its checks -/

/-- As `observe`, but nothing if the display lacks a key it is told of or if the editor is edited outside of its
text. -/
def follow? (app : App) : List Event → Option App
  | [] => some app
  | .draw command :: rest => do
    let display ← app.display.draw? Key.glyph command
    { app with display }.follow? rest
  | .input _ value :: rest => do
    let editor ← app.editor.take? value
    { app with editor }.follow? rest
  | _ :: rest => app.follow? rest

def openKeyboard? (app : App) : Option App :=
  let (keyboard, events) := app.keyboard.open (String.ofList app.editor.text) (some (.field 0)) none
  { app with keyboard }.follow? events

def moveVertically? (app : App) (down : Bool) : Option App := do
  let selected ← vertical? app.display.rows (app.rowOf app.selected) app.selected down
  some { app with selected }

/-- As `pressSelected`, but nothing if there is no such key. -/
def pressSelected? (app : App) : Option App :=
  match app.keyboard.press app.selected with
  | .error _ => none
  | .ok (outcome, keyboard, events) => { app with keyboard, message := report outcome }.follow? events

/-- As `handle`, with every index checked. -/
def handle? (app : App) (key : TerminalKey) : Option App :=
  match app.keyboard.visible, key with
  | true, .up => app.moveVertically? false
  | true, .down => app.moveVertically? true
  | true, .enter => app.pressSelected?
  | false, .enter => app.openKeyboard?
  | _, _ => some (app.handle key)

/-! ### What a key of the terminal does -/

theorem moveVertically?_eq {layout : Layout} {app : App} {here : Row} (hrows : app.display.rows = layout.rows)
    (hrow : layout.rows[app.rowOf app.selected]? = some here) (hselected : here.contains app.selected = true)
    (down : Bool) : app.moveVertically? down = some (app.moveVertically down) := by
  obtain ⟨there, -, -, hvertical, -⟩ := vertical_spec hrow hselected down
  rw [moveVertically?, moveVertically, hrows, hvertical]
  rfl

theorem observe_eq (app : App) (events : List Event) :
    app.observe events =
      { app with
        display := app.display.follow Key.glyph events
        editor := (events.filterMap Event.argument?).foldl LineEditor.apply app.editor } := by
  induction events generalizing app with
  | nil => rfl
  | cons event rest ih =>
      cases event with
      | draw command => exact ih { app with display := app.display.draw Key.glyph command }
      | input listener value => exact ih { app with editor := app.editor.apply value }
      | closed name => exact ih app
      | log record => exact ih app

/-- Opening the keyboard draws nothing but the keyboard and writes nothing. -/
theorem openKeyboard_eq (app : App) :
    app.openKeyboard =
      { app with
        keyboard := (app.keyboard.open (String.ofList app.editor.text) (some (.field 0)) none).1
        display := { app.display with visible := true } } := by
  show observe _ _ = _
  rw [observe_eq]
  cases hvisible : app.keyboard.visible <;> rfl

/-- Events for a display that has the keys they are about, and an editor with its cursor in its text, need no
checks. -/
theorem follow?_eq {size : Nat} {events : List Event} (app : App)
    (hfits : ∀ command ∈ events.filterMap Event.draw?, command.Fits size)
    (htexts : app.display.texts.length = size) (hlit : app.display.lit.length = size)
    (hcursor : app.editor.cursor ≤ app.editor.text.length) : app.follow? events = some (app.observe events) := by
  induction events generalizing app with
  | nil => rfl
  | cons event rest ih =>
      cases event with
      | draw command =>
          obtain ⟨hcommand, hrest⟩ := List.forall_mem_cons.mp hfits
          obtain ⟨hdrawnTexts, hdrawnLit⟩ := Display.lengths_draw hcommand Key.glyph app.display
          rw [follow?, Display.draw?_eq hcommand htexts hlit]
          exact ih { app with display := app.display.draw Key.glyph command } hrest (hdrawnTexts.trans htexts)
            (hdrawnLit.trans hlit) hcursor
      | input listener value =>
          rw [follow?, LineEditor.take?_eq hcursor]
          exact ih { app with editor := app.editor.apply value } hfits htexts hlit
            (LineEditor.cursor_le_foldl hcursor [value])
      | closed name => exact ih app hfits htexts hlit hcursor
      | log record => exact ih app hfits htexts hlit hcursor

/-- The app after a list of keys. -/
def after (app : App) (keys : List TerminalKey) : App :=
  keys.foldl handle app

/-- The key of the keyboard that a key of the terminal presses. -/
def pressed? (app : App) (key : TerminalKey) : Option Key :=
  if app.keyboard.visible = true ∧ key = .enter then app.keyboard.layout.key? app.selected else none

/-- An app whose editor and display follow its keyboard, with a key of the layout selected. The editor listens for
good: its keyboard keeps its listeners when it is closed. -/
structure Attached (layout : Layout) (n : Nat) (app : App) : Prop where
  mirrors : Keyboard.Mirrors Key.glyph layout n app.keyboard app.display
  rows_eq : app.display.rows = layout.rows
  selected_lt : app.selected < layout.size
  onInput_eq : app.keyboard.onInput = some (.field 0)
  forgetful_eq : app.keyboard.forgetful = false
  cursor_le : app.editor.cursor ≤ app.editor.text.length

/-- What a key can do to an app: it presses the selected key, opens the keyboard, or leaves keyboard, display and
editor as they are. -/
inductive Course (layout : Layout) (app : App) (key : TerminalKey) : Prop
  | press (actuated : Key) (pressed : app.pressed? key = some actuated)
      (found : layout.key? app.selected = some actuated)
      (left : app.handle key =
        { app with
          keyboard := (app.keyboard.pressing app.selected actuated).1
          message := report (app.keyboard.actuate app.selected actuated).1 }.observe
            (app.keyboard.pressing app.selected actuated).2)
  | reopen (hidden : app.keyboard.visible = false) (entered : key = .enter) (left : app.handle key = app.openKeyboard)
  | rest (other : key ≠ .enter) (selected : Nat) (selected_lt : selected < layout.size) (quit : Bool)
      (left : app.handle key = { app with selected, quit })

namespace Attached

variable {layout : Layout} {n : Nat} {app : App}

theorem layout_eq (h : Attached layout n app) : app.keyboard.layout = layout :=
  h.mirrors.turned.layout_eq

theorem exists_row (h : Attached layout n app) :
    ∃ here, layout.rows[app.rowOf app.selected]? = some here ∧ here.contains app.selected = true := by
  obtain ⟨row, here, hfound, hrow, hselected⟩ := exists_rowOf h.selected_lt
  rw [rowOf, h.rows_eq, hfound]
  exact ⟨here, hrow, hselected⟩

theorem exists_selected (h : Attached layout n app) : ∃ key, layout.key? app.selected = some key :=
  ⟨_, List.getElem?_eq_getElem h.selected_lt⟩

theorem course (h : Attached layout n app) (key : TerminalKey) : Course layout app key := by
  cases hvisible : app.keyboard.visible with
  | false =>
      cases key with
      | enter => exact .reopen hvisible rfl (by simp [handle, hvisible])
      | _ => exact .rest nofun app.selected h.selected_lt _ (by simp [handle, hvisible]; rfl)
  | true =>
      obtain ⟨here, hrow, hselected⟩ := h.exists_row
      have hsize := h.selected_lt
      have hvertical : ∀ down, app.moveVertically down =
          { app with selected := vertical layout.rows (app.rowOf app.selected) app.selected down } := by
        intro down
        rw [moveVertically, h.rows_eq]
      cases key with
      | left => exact .rest nofun (app.selected - 1) (by omega) app.quit (by simp [handle, hvisible])
      | right =>
          refine .rest nofun (min (app.selected + 1) (layout.size - 1)) (by omega) app.quit ?_
          simp [handle, hvisible, h.layout_eq]
      | up => exact .rest nofun _ (vertical_lt hrow hselected false) app.quit (by simp [handle, hvisible, hvertical])
      | down => exact .rest nofun _ (vertical_lt hrow hselected true) app.quit (by simp [handle, hvisible, hvertical])
      | enter =>
          obtain ⟨actuated, hfound⟩ := h.exists_selected
          have hkeyboard : app.keyboard.layout.key? app.selected = some actuated := h.layout_eq ▸ hfound
          refine .press actuated (by rw [pressed?, if_pos ⟨hvisible, rfl⟩, hkeyboard]) hfound ?_
          simp only [handle, hvisible, if_true, pressSelected, Keyboard.press_found hkeyboard]
      | escape => exact .rest nofun app.selected hsize true (by simp [handle, hvisible])
      | other => exact .rest nofun app.selected hsize app.quit (by simp [handle, hvisible])

theorem press (h : Attached layout n app) {key : Key} (hfound : layout.key? app.selected = some key)
    (message : String) :
    Attached layout (if key.isToggle then n + 1 else n)
      ({ app with keyboard := (app.keyboard.pressing app.selected key).1, message }.observe
        (app.keyboard.pressing app.selected key).2) := by
  have hlisteners := app.keyboard.actuate_listeners app.selected key
  rw [h.forgetful_eq, Bool.false_and, if_neg Bool.false_ne_true] at hlisteners
  rw [observe_eq]
  exact
    { mirrors := h.mirrors.actuate app.selected key
      rows_eq := (Display.rows_follow (Keyboard.fits_actuate h.mirrors.turned hfound) _ _).trans h.rows_eq
      selected_lt := h.selected_lt
      onInput_eq := (congrArg Prod.fst hlisteners).trans h.onInput_eq
      forgetful_eq := (app.keyboard.actuate_built app.selected key).2.trans h.forgetful_eq
      cursor_le := LineEditor.cursor_le_foldl h.cursor_le _ }

theorem openKeyboard (h : Attached layout n app) : Attached layout n app.openKeyboard := by
  rw [openKeyboard_eq]
  exact
    { mirrors := h.mirrors.withVisible (h.mirrors.turned.congr rfl rfl rfl) rfl
      rows_eq := h.rows_eq
      selected_lt := h.selected_lt
      onInput_eq := rfl
      forgetful_eq := h.forgetful_eq
      cursor_le := h.cursor_le }

theorem pressed?_rest {key : TerminalKey} (hother : key ≠ .enter) : app.pressed? key = none :=
  if_neg fun hentered => hother hentered.2

theorem pressed?_hidden (key : TerminalKey) (hhidden : app.keyboard.visible = false) : app.pressed? key = none :=
  if_neg fun hentered => Bool.false_ne_true (hhidden.symm.trans hentered.1)

/-- What every key passes on. -/
theorem handle (h : Attached layout n app) (key : TerminalKey) :
    Attached layout (if (app.pressed? key).any Key.isToggle then n + 1 else n) (app.handle key) := by
  cases h.course key with
  | press actuated pressed found left =>
      rw [pressed, left, Option.any_some]
      exact h.press found _
  | reopen hidden entered left =>
      rw [pressed?_hidden key hidden, left]
      exact h.openKeyboard
  | rest other selected selected_lt quit left =>
      rw [pressed?_rest other, left]
      exact ⟨h.mirrors, h.rows_eq, selected_lt, h.onInput_eq, h.forgetful_eq, h.cursor_le⟩

theorem handle?_eq (h : Attached layout n app) (key : TerminalKey) : app.handle? key = some (app.handle key) := by
  obtain ⟨here, hrow, hselected⟩ := h.exists_row
  have vertically := moveVertically?_eq h.rows_eq hrow hselected
  cases hvisible : app.keyboard.visible with
  | false =>
      cases key with
      | enter =>
          simp only [handle?, App.handle, hvisible, Bool.false_eq_true, if_false]
          exact follow?_eq _
            (Keyboard.fits_open layout.size app.keyboard (String.ofList app.editor.text) (some (.field 0)) none)
            h.mirrors.texts_length h.mirrors.lit_length h.cursor_le
      | _ => simp only [handle?, hvisible]
  | true =>
      cases key with
      | up => simp only [handle?, App.handle, hvisible, if_true, vertically]
      | down => simp only [handle?, App.handle, hvisible, if_true, vertically]
      | enter =>
          obtain ⟨actuated, hfound⟩ := h.exists_selected
          simp only [handle?, App.handle, hvisible, if_true, pressSelected?, pressSelected,
            Keyboard.press_found (h.layout_eq ▸ hfound)]
          exact follow?_eq _ (Keyboard.fits_actuate h.mirrors.turned hfound) h.mirrors.texts_length
            h.mirrors.lit_length h.cursor_le
      | _ => simp only [handle?, hvisible]

/-! ### Runs -/

theorem after (h : Attached layout n app) (keys : List TerminalKey) : ∃ m, Attached layout m (app.after keys) := by
  induction keys generalizing n app with
  | nil => exact ⟨n, h⟩
  | cons key rest ih => exact ih (h.handle key)

theorem foldlM_handle? (h : Attached layout n app) (keys : List TerminalKey) :
    keys.foldlM handle? app = some (app.after keys) := by
  induction keys generalizing n app with
  | nil => rfl
  | cons key rest ih =>
      rw [List.foldlM_cons, h.handle?_eq key]
      exact ih (h.handle key)

end Attached

theorem attached_start : Attached Layout.qwerty 0 start := by
  rw [start, openKeyboard_eq]
  have hmirrors := Keyboard.Mirrors.ofLayout Key.glyph Layout.qwerty false
  exact
    { mirrors := hmirrors.withVisible (hmirrors.turned.congr rfl rfl rfl) rfl
      rows_eq := rfl
      selected_lt := by decide
      onInput_eq := rfl
      forgetful_eq := rfl
      cursor_le := le_rfl }

/-- Whatever keys the terminal's keyboard is given, a key of it stays selected, so that no index is out of range and
nothing is pressed that does not exist. On every layout, a move to the side leads to the next key, if there is one, and
a move up or down to the next row, if there is one, into the same column or onto the last key of a shorter row. -/
theorem selection_along_run :
    (∀ keys, let app := start.after keys
      app.selected < app.keyboard.layout.size ∧ keys.foldlM handle? start = some app ∧
      ∃ pressed, app.keyboard.press app.selected = .ok pressed) ∧
    ∀ (layout : Layout) (app : App), app.keyboard.layout = layout → app.display.rows = layout.rows →
      app.selected < layout.size →
      (app.keyboard.visible = true →
        (app.handle .left).selected = (if 0 < app.selected then app.selected - 1 else app.selected) ∧
        (app.handle .right).selected =
          (if app.selected + 1 < layout.size then app.selected + 1 else app.selected)) ∧
      ∃ row here, layout.rows[row]? = some here ∧ here.contains app.selected = true ∧
        ∀ down, ∃ there, layout.rows[Layout.neighbour layout.rows.length row down]? = some there ∧
          app.moveVertically? down = some (app.moveVertically down) ∧
          there.contains (app.moveVertically down).selected = true ∧
          (app.moveVertically down).selected =
            there.start + min (app.selected - here.start) (there.stop - there.start - 1) := by
  refine ⟨fun keys => ?_, fun layout app hlayout hrows hselected => ⟨fun hvisible => ?_, ?_⟩⟩
  · obtain ⟨n, h⟩ := attached_start.after keys
    obtain ⟨key, hfound⟩ := h.exists_selected
    refine ⟨?_, attached_start.foldlM_handle? keys, _, Keyboard.press_found (h.layout_eq ▸ hfound)⟩
    rw [h.layout_eq]
    exact h.selected_lt
  · simp only [handle, hvisible, if_true, hlayout]
    split_ifs <;> omega
  · obtain ⟨row, here, hfound, hrow, hwithin⟩ := exists_rowOf hselected
    refine ⟨row, here, hrow, hwithin, fun down => ?_⟩
    have hrowOf : app.rowOf app.selected = row := by
      rw [rowOf, hrows, hfound, Option.getD_some]
    obtain ⟨there, hthere, hvertical, -, hcontains⟩ := vertical_spec hrow hwithin down
    have hmoved : (app.moveVertically down).selected = vertical layout.rows row app.selected down := by
      rw [moveVertically, hrows, hrowOf]
    refine ⟨there, hthere, moveVertically?_eq hrows (hrowOf ▸ hrow) hwithin down, ?_, ?_⟩
    · rw [hmoved]
      exact hcontains
    · rw [hmoved]
      exact hvertical

end App

end Terminal

end ScreenKeyboard
