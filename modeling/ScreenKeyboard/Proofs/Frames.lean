import ScreenKeyboard.Panel
import ScreenKeyboard.Proofs.Dictation
import ScreenKeyboard.Proofs.Fields

/-!
What frames leave in the window with the two fields. Within a frame a field may gain the focus before the keys are
drawn, and one of the drawn keys may be pressed after; a run of frames is a list of these moments. Who is written,
what is written and whether there are keys to press is read off the moments alone (`latest`, `given`, `Asked`):
a closed keyboard keeps its listener, so it matters that nothing is pressed that is not drawn. `Serving` is what every
moment preserves, and `updates_along_run` says what frames do.
-/

namespace ScreenKeyboard

/-- The slot of the field that an event writes, and the value that it writes. -/
def Event.write? : Event → Option (Nat × String)
  | .input (.field slot) value => some (slot, value)
  | _ => none

theorem Event.writes_of_calls (events : List Event) :
    (events.filter isCall).filterMap write? = events.filterMap write? := by
  rw [List.filterMap_filter]
  congr 1
  funext event
  cases event <;> rfl

/-- A field that takes values in place of its text has the last value it was given. -/
theorem Field.text_foldl_write {field : Field} (h : field.appends = false) (values : List String) :
    (values.foldl write field).text = values.getLast?.getD field.text := by
  induction values generalizing field with
  | nil => rfl
  | cons value rest ih =>
      have hvalue : (field.write value).text = value := by simp [write, h]
      have hrest : (rest.foldl write (field.write value)).text = rest.getLast?.getD (field.write value).text := ih h
      rw [List.foldl_cons, hrest, hvalue, List.getLast?_cons, Option.getD_some]

/-- The rows have every key from the first on, in order. -/
theorem Layout.Cut.flatMap_indices {layout : Layout} {start : Nat} {rows : List Row} (h : layout.Cut start rows) :
    rows.flatMap Row.indices = List.range' start (layout.size - start) := by
  induction rows generalizing start with
  | nil => rw [h.nil rfl, Nat.sub_self, List.range'_zero, List.flatMap_nil]
  | cons row rest ih =>
      have hlt := h.start_lt
      have hle := h.tail.start_le
      have hstop : row.stop = start + 1 * (row.stop - start) := by omega
      rw [List.flatMap_cons, ih h.tail, Row.indices, h.start_eq]
      nth_rewrite 2 [hstop]
      rw [List.range'_append]
      congr 1
      omega

namespace Panel

/-! ### Moments -/

/-- What a frame does to the window: a field gains the focus, or a key is pressed. -/
inductive Moment
  | gained (slot : Fin 2)
  | pressed (key : Key)
  deriving DecidableEq, Repr

namespace Moment

def slot? : Moment → Option (Fin 2)
  | gained slot => some slot
  | pressed _ => none

def isToggle : Moment → Bool
  | gained _ => false
  | pressed key => key.isToggle

def isDone : Moment → Bool
  | gained _ => false
  | pressed key => key.role = .done

end Moment

/-- The field that gained the focus last. -/
def latest (past : List Moment) : Option (Fin 2) :=
  (past.filterMap Moment.slot?).getLast?

/-- How often caps lock was turned over. -/
def turns (past : List Moment) : Nat :=
  past.countP Moment.isToggle

/-- That a field gained the focus and done was not pressed since. -/
def Asked (past : List Moment) : Prop :=
  ∃ earlier slot later, past = earlier ++ .gained slot :: later ∧ ∀ moment ∈ later, moment.isDone = false

/-- What the presses gave, each with the field that was served then. Before the moments `served` is served and caps
lock was turned over `n` times. -/
def given (served : Option (Fin 2)) (n : Nat) : List Moment → List (Option (Fin 2) × Outcome)
  | [] => []
  | .gained slot :: rest => given (some slot) n rest
  | .pressed key :: rest =>
    (served, key.outcomeAfter n) :: given served (if key.isToggle then n + 1 else n) rest

/-- The values that were typed while the field was served. -/
def typedInto (slot : Fin 2) (past : List Moment) : List String :=
  (given none 0 past).filterMap fun (served, outcome) => if served = some slot then outcome.typed? else none

/-- What was reported last. -/
def lastReport (past : List Moment) : String :=
  ((given none 0 past).getLast?.map fun (_, outcome) => report outcome).getD ""

section Past

variable (past : List Moment) (slot : Fin 2) (key : Key)

theorem latest_cons_gained : latest (.gained slot :: past) = (latest past).or (some slot) := by
  show (slot :: past.filterMap Moment.slot?).getLast? = _
  rw [List.getLast?_cons, latest]
  cases (past.filterMap Moment.slot?).getLast? <;> rfl

theorem latest_gained : latest (past ++ [.gained slot]) = some slot := by
  simp [latest, Moment.slot?]

theorem latest_pressed : latest (past ++ [.pressed key]) = latest past := by
  simp [latest, Moment.slot?]

theorem turns_gained : turns (past ++ [.gained slot]) = turns past := by
  simp [turns, Moment.isToggle]

theorem turns_pressed :
    turns (past ++ [.pressed key]) = if key.isToggle then turns past + 1 else turns past := by
  cases htoggle : key.isToggle <;> simp [turns, Moment.isToggle, htoggle]

theorem asked_gained : Asked (past ++ [.gained slot]) :=
  ⟨past, slot, [], rfl, by simp⟩

theorem asked_pressed : Asked (past ++ [.pressed key]) ↔ Asked past ∧ key.role ≠ .done := by
  constructor
  · rintro ⟨earlier, slot, later, hpast, hlater⟩
    rcases Keyboard.concat_eq_append_cons hpast with ⟨-, -, hslot⟩ | ⟨between, rfl, hbetween⟩
    · cases hslot
    · refine ⟨⟨earlier, slot, between, hbetween, fun moment hmoment => ?_⟩, ?_⟩
      · exact hlater moment (List.mem_append_left _ hmoment)
      · exact of_decide_eq_false (hlater (.pressed key) (by simp))
  · rintro ⟨⟨earlier, slot, later, rfl, hlater⟩, hrole⟩
    refine ⟨earlier, slot, later ++ [.pressed key], by simp, fun moment hmoment => ?_⟩
    rcases List.mem_append.mp hmoment with hbefore | hlast
    · exact hlater moment hbefore
    · rw [List.mem_singleton.mp hlast]
      exact decide_eq_false hrole

theorem exists_latest {past : List Moment} (h : Asked past) : ∃ slot, latest past = some slot := by
  obtain ⟨earlier, slot, later, rfl, -⟩ := h
  rw [latest, List.filterMap_append, List.getLast?_append, ← latest, latest_cons_gained]
  cases latest later <;> exact ⟨_, rfl⟩

theorem given_append (served : Option (Fin 2)) (n : Nat) (later : List Moment) :
    given served n (past ++ later) =
      given served n past ++ given ((latest past).or served) (n + turns past) later := by
  -- both arguments change on the way through the past
  induction past generalizing served n with
  | nil => rfl
  | cons moment rest ih =>
      cases moment with
      | gained slot =>
          rw [List.cons_append, given, ih, latest_cons_gained, Option.or_assoc, Option.some_or]
          rfl
      | pressed key =>
          have hturns : n + turns (.pressed key :: rest) = (if key.isToggle then n + 1 else n) + turns rest := by
            cases htoggle : key.isToggle <;> simp [turns, Moment.isToggle, htoggle]
            omega
          rw [List.cons_append, given, ih, hturns]
          rfl

theorem given_gained : given none 0 (past ++ [.gained slot]) = given none 0 past := by
  rw [given_append, given, given, List.append_nil]

theorem given_pressed :
    given none 0 (past ++ [.pressed key]) =
      given none 0 past ++ [(latest past, key.outcomeAfter (turns past))] := by
  rw [given_append, given, given, Option.or_none, Nat.zero_add]

theorem typedInto_pressed :
    typedInto slot (past ++ [.pressed key]) =
      typedInto slot past ++
        (if latest past = some slot then (key.outcomeAfter (turns past)).typed? else none).toList := by
  rw [typedInto, given_pressed, List.filterMap_append]
  rfl

theorem lastReport_pressed :
    lastReport (past ++ [.pressed key]) = report (key.outcomeAfter (turns past)) := by
  rw [lastReport, given_pressed, List.getLast?_concat]
  rfl

end Past

/-! ### What the window makes of what the keyboard did -/

theorem observe_eq (panel : Panel) (events : List Event) :
    panel.observe events =
      { panel with
        display := panel.display.follow Key.glyph events
        fields := (events.filterMap Event.write?).foldl (fun fields write => fields.modify write.1 (·.write write.2))
          panel.fields } := by
  induction events generalizing panel with
  | nil => rfl
  | cons event rest ih =>
      cases event with
      | draw command => exact ih { panel with display := panel.display.draw Key.glyph command }
      | input listener value =>
          cases listener with
          | caller name => exact ih panel
          | field slot => exact ih { panel with fields := panel.fields.modify slot (·.write value) }
      | closed name => exact ih panel
      | log record => exact ih panel

/-- As `observe`, but nothing if there is no such key on the display or no such field. -/
def follow? (panel : Panel) : List Event → Option Panel
  | [] => some panel
  | .draw command :: rest => do
    let display ← panel.display.draw? Key.glyph command
    { panel with display }.follow? rest
  | .input (.field slot) value :: rest =>
    if slot < panel.fields.length then
      { panel with fields := panel.fields.modify slot (·.write value) }.follow? rest
    else none
  | _ :: rest => panel.follow? rest

theorem follow?_eq {size : Nat} {events : List Event} (panel : Panel)
    (hfits : ∀ command ∈ events.filterMap Event.draw?, command.Fits size)
    (hslots : ∀ write ∈ events.filterMap Event.write?, write.1 < panel.fields.length)
    (htexts : panel.display.texts.length = size) (hlit : panel.display.lit.length = size) :
    panel.follow? events = some (panel.observe events) := by
  induction events generalizing panel with
  | nil => rfl
  | cons event rest ih =>
      cases event with
      | draw command =>
          obtain ⟨hcommand, hrest⟩ := List.forall_mem_cons.mp hfits
          obtain ⟨hdrawnTexts, hdrawnLit⟩ := Display.lengths_draw hcommand Key.glyph panel.display
          rw [follow?, Display.draw?_eq hcommand htexts hlit]
          exact ih { panel with display := panel.display.draw Key.glyph command } hrest hslots
            (hdrawnTexts.trans htexts) (hdrawnLit.trans hlit)
      | input listener value =>
          cases listener with
          | caller name => exact ih panel hfits hslots htexts hlit
          | field slot =>
              obtain ⟨hslot, hrest⟩ := List.forall_mem_cons.mp hslots
              rw [follow?, if_pos hslot]
              exact ih { panel with fields := panel.fields.modify slot (·.write value) } hfits
                (by simpa using hrest) htexts hlit
      | closed name => exact ih panel hfits hslots htexts hlit
      | log record => exact ih panel hfits hslots htexts hlit

theorem writes_open (keyboard : Keyboard) (value : String) (onInput : Option Listener) (onClose : Option String) :
    (keyboard.open value onInput onClose).2.filterMap Event.write? = [] := by
  cases hvisible : keyboard.visible <;> simp only [Keyboard.open, hvisible] <;> rfl

/-- A press writes what it types into the field that listens. -/
theorem writes_pressing {keyboard : Keyboard} {served : Option (Fin 2)}
    (h : keyboard.onInput = served.map fun slot => .field slot) (index : Nat) (key : Key) :
    (keyboard.pressing index key).2.filterMap Event.write? =
      (served.bind fun slot => (keyboard.actuate index key).1.typed?.map (slot.val, ·)).toList := by
  rw [← Event.writes_of_calls, Keyboard.pressing, List.filter_cons_of_neg Bool.false_ne_true,
    Keyboard.actuate_calls, h]
  cases (keyboard.actuate index key).1 with
  | typed value => cases served <;> rfl
  | dismissed => cases served <;> cases keyboard.onClose <;> rfl

/-- The fields after a press with this outcome, with this field served. -/
def written (fields : List Field) (served : Option (Fin 2)) (outcome : Outcome) : List Field :=
  served.elim fields fun slot => outcome.typed?.elim fields fun value => fields.modify slot (·.write value)

section Written

variable (fields : List Field) (served : Option (Fin 2)) (outcome : Outcome)

theorem foldl_modify :
    (served.bind fun slot => outcome.typed?.map (slot.val, ·)).toList.foldl
      (fun fields write => fields.modify write.1 (·.write write.2)) fields = written fields served outcome := by
  unfold written
  cases served <;> cases outcome.typed? <;> rfl

theorem length_written : (written fields served outcome).length = fields.length := by
  unfold written
  cases served <;> cases outcome.typed? <;> simp

/-- The served field is given the value, and the other is left alone. -/
theorem getElem?_written (slot : Fin 2) :
    (written fields served outcome)[slot.val]? = fields[slot.val]?.map fun field =>
      (if served = some slot then outcome.typed? else none).toList.foldl Field.write field := by
  unfold written
  cases served with
  | none => simp
  | some other =>
      cases outcome.typed? with
      | none => simp
      | some value =>
          by_cases hslot : other = slot
          · simp [hslot]
          · simp [hslot, Fin.val_ne_of_ne hslot]

end Written

/-! ### The window with its checks -/

/-- As `gain`, but nothing if no such field is bound. -/
def gain? (panel : Panel) (slot : Nat) : Option Panel :=
  match panel.keyboard.focus slot panel.textOf with
  | .error _ => none
  | .ok (keyboard, events) => { panel with keyboard }.follow? events

/-- As `press`, but nothing if there is no such key. -/
def press? (panel : Panel) (index : Nat) : Option Panel :=
  match panel.keyboard.press index with
  | .error _ => none
  | .ok (outcome, keyboard, events) => { panel with keyboard, last := report outcome }.follow? events

/-- What a key looks like on the screen. -/
structure Button where
  text : String
  wide : Bool
  lit : Bool
  deriving DecidableEq, Repr

def button? (display : Display) (index : Nat) : Option Button := do
  let wide ← display.wide[index]?
  let text ← display.texts[index]?
  let lit ← display.lit[index]?
  some { text, wide, lit }

/-- The buttons on the screen, row by row, but nothing if the display lacks a key of a row. -/
def drawn? (panel : Panel) : Option (List Button) :=
  if panel.display.visible then (panel.display.rows.flatMap Row.indices).mapM (button? panel.display) else some []

/-- As `update`, with every index checked. -/
def update? (panel : Panel) (frame : Frame) : Option Panel := do
  let opened ← frame.gained.elim (some panel) fun slot => panel.gain? slot
  let buttons ← opened.drawn?
  match frame.clicked with
  | some index => if index < buttons.length then opened.press? index else some opened
  | none => some opened

theorem mapM_button? {size : Nat} {display : Display} (htexts : display.texts.length = size)
    (hwide : display.wide.length = size) (hlit : display.lit.length = size) {indices : List Nat}
    (h : ∀ index ∈ indices, index < size) :
    ∃ buttons, indices.mapM (button? display) = some buttons ∧
      (buttons.map Button.text).map some = indices.map (display.texts[·]?) := by
  induction indices with
  | nil => exact ⟨[], rfl, rfl⟩
  | cons index rest ih =>
      obtain ⟨buttons, hbuttons, htext⟩ := ih fun later hlater => h later (List.mem_cons_of_mem _ hlater)
      have hindex := h index List.mem_cons_self
      have hfirst : button? display index =
          some ⟨display.texts[index], display.wide[index], display.lit[index]⟩ := by
        simp [button?, htexts, hwide, hlit, hindex]
      refine ⟨⟨display.texts[index], display.wide[index], display.lit[index]⟩ :: buttons, ?_, ?_⟩
      · rw [List.mapM_cons, hfirst, hbuttons]
        rfl
      · rw [List.map_cons, List.map_cons, List.map_cons, htext, List.getElem?_eq_getElem]

/-! ### Frames as moments -/

/-- What happens in a frame before the keys are drawn. -/
def Frame.opening (frame : Frame) : List Moment :=
  frame.gained.toList.map .gained

/-- The key that is pressed by a click, if there is one on a button that is drawn. -/
def pressed? (panel : Panel) (frame : Frame) : Option Key :=
  frame.clicked.bind fun index =>
    if index < panel.buttons.length then panel.keyboard.layout.key? index else none

def moments (panel : Panel) (frame : Frame) : List Moment :=
  frame.opening ++ ((panel.drawFields frame).pressed? frame).toList.map .pressed

/-- The window after a list of frames. -/
def after (panel : Panel) (frames : List Frame) : Panel :=
  frames.foldl update panel

/-- The moments of a list of frames. -/
def course (panel : Panel) : List Frame → List Moment
  | [] => []
  | frame :: rest => panel.moments frame ++ (panel.update frame).course rest

theorem update_idle (panel : Panel) {frame : Frame}
    (h : ∀ index ∈ frame.clicked, (panel.drawFields frame).buttons.length ≤ index) :
    panel.update frame = panel.drawFields frame ∧ (panel.drawFields frame).pressed? frame = none := by
  unfold update pressed?
  cases hclicked : frame.clicked with
  | none => exact ⟨rfl, rfl⟩
  | some index =>
      have hout := Nat.not_lt.mpr (h index hclicked)
      exact ⟨if_neg hout, if_neg hout⟩

theorem update_click (panel : Panel) {frame : Frame} {index : Nat} (hclicked : index ∈ frame.clicked)
    (hdrawn : index < (panel.drawFields frame).buttons.length) :
    panel.update frame = (panel.drawFields frame).press index ∧
      (panel.drawFields frame).pressed? frame = (panel.drawFields frame).keyboard.layout.key? index := by
  unfold update pressed?
  rw [Option.mem_def.mp hclicked]
  exact ⟨if_pos hdrawn, if_pos hdrawn⟩

/-! ### What every moment preserves -/

/-- A window with these moments in its past. The keyboard serves the field that gained the focus last, and keeps
serving it when it is closed; each field has been written what was typed while it was served. -/
structure Serving (layout : Layout) (past : List Moment) (panel : Panel) : Prop where
  mirrors : Keyboard.Mirrors Key.glyph layout (turns past) panel.keyboard panel.display
  rows_eq : panel.display.rows = layout.rows
  wide_length : panel.display.wide.length = layout.size
  onInput_eq : panel.keyboard.onInput = (latest past).map fun slot => .field slot
  forgetful_eq : panel.keyboard.forgetful = false
  bound_eq : panel.keyboard.bound = [0, 1]
  visible_iff : panel.keyboard.visible = true ↔ Asked past
  fields_length : panel.fields.length = 2
  field_eq (slot : Fin 2) : panel.fields[slot.val]? =
    start.fields[slot.val]?.map fun field => (typedInto slot past).foldl Field.write field
  last_eq : panel.last = lastReport past

theorem focus_eq {keyboard : Keyboard} (h : keyboard.bound = [0, 1]) (slot : Fin 2) (textOf : Nat → String) :
    keyboard.focus slot textOf = .ok (keyboard.open (textOf slot) (some (.field slot)) none) := by
  have hslot : keyboard.bound[slot.val]? = some slot.val := by
    rw [h]
    match slot with
    | 0 | 1 => rfl
  rw [Keyboard.focus, hslot]

theorem serving_start : Serving Layout.qwerty [] start where
  mirrors :=
    have hmirrors := Keyboard.Mirrors.ofLayout Key.glyph Layout.qwerty false
    hmirrors.withVisible (hmirrors.turned.congr rfl rfl rfl) rfl
  rows_eq := rfl
  wide_length := rfl
  onInput_eq := rfl
  forgetful_eq := rfl
  bound_eq := rfl
  visible_iff := by
    refine ⟨fun hvisible => absurd hvisible Bool.false_ne_true, ?_⟩
    rintro ⟨earlier, slot, later, hpast, -⟩
    simp at hpast
  fields_length := rfl
  field_eq slot :=
    match slot with
    | 0 | 1 => rfl
  last_eq := rfl

namespace Serving

variable {layout : Layout} {past : List Moment} {panel : Panel}

theorem layout_eq (h : Serving layout past panel) : panel.keyboard.layout = layout :=
  h.mirrors.turned.layout_eq

theorem textOf_eq (h : Serving layout past panel) (slot : Fin 2) :
    panel.textOf slot = (typedInto slot past).getLast?.getD (start.textOf slot) := by
  rw [textOf, textOf, h.field_eq, Option.map_map]
  match slot with
  | 0 | 1 => exact Field.text_foldl_write rfl _

theorem gain_eq (h : Serving layout past panel) (slot : Fin 2) :
    panel.gain slot =
      { panel with
        keyboard := (panel.keyboard.open (panel.textOf slot) (some (.field slot)) none).1
        display := { panel.display with visible := true } } := by
  rw [Panel.gain, focus_eq h.bound_eq]
  show observe _ _ = _
  rw [observe_eq]
  cases hvisible : panel.keyboard.visible <;> simp only [Keyboard.open, hvisible] <;> rfl

theorem gain?_eq (h : Serving layout past panel) (slot : Fin 2) : panel.gain? slot = some (panel.gain slot) := by
  rw [gain?, Panel.gain, focus_eq h.bound_eq]
  have hfits := Keyboard.fits_open layout.size panel.keyboard (panel.textOf slot) (some (.field slot)) none
  have hwrites := writes_open panel.keyboard (panel.textOf slot) (some (.field slot)) none
  refine follow?_eq _ hfits (fun write hwrite => ?_) h.mirrors.texts_length h.mirrors.lit_length
  exact absurd (hwrites ▸ hwrite) List.not_mem_nil

theorem gain (h : Serving layout past panel) (slot : Fin 2) :
    Serving layout (past ++ [.gained slot]) (panel.gain slot) := by
  rw [h.gain_eq]
  exact
    { mirrors := turns_gained past slot ▸ h.mirrors.withVisible (h.mirrors.turned.congr rfl rfl rfl) rfl
      rows_eq := h.rows_eq
      wide_length := h.wide_length
      onInput_eq := latest_gained past slot ▸ rfl
      forgetful_eq := h.forgetful_eq
      bound_eq := h.bound_eq
      visible_iff := ⟨fun _ => asked_gained past slot, fun _ => rfl⟩
      fields_length := h.fields_length
      field_eq := by
        intro other
        rw [typedInto, given_gained]
        exact h.field_eq other
      last_eq := by
        rw [lastReport, given_gained]
        exact h.last_eq }

theorem press_eq (h : Serving layout past panel) {index : Nat} {key : Key} (found : layout.key? index = some key) :
    panel.press index =
      { panel with
        keyboard := (panel.keyboard.actuate index key).2.1
        display := panel.display.follow Key.glyph (panel.keyboard.actuate index key).2.2
        fields := written panel.fields (latest past) (key.outcomeAfter (turns past))
        last := report (key.outcomeAfter (turns past)) } := by
  rw [Panel.press, Keyboard.press_found (h.layout_eq ▸ found), ← h.mirrors.turned.outcome_eq found]
  show observe _ (panel.keyboard.pressing index key).2 = _
  rw [observe_eq, writes_pressing h.onInput_eq, foldl_modify]
  rfl

theorem press?_eq (h : Serving layout past panel) {index : Nat} {key : Key}
    (found : layout.key? index = some key) : panel.press? index = some (panel.press index) := by
  have hslots : ∀ write ∈ (panel.keyboard.pressing index key).2.filterMap Event.write?,
      write.1 < panel.fields.length := by
    rw [writes_pressing h.onInput_eq, h.fields_length]
    intro write hwrite
    obtain ⟨served, -, hvalue⟩ := Option.bind_eq_some_iff.mp (Option.mem_toList.mp hwrite)
    obtain ⟨value, -, rfl⟩ := Option.map_eq_some_iff.mp hvalue
    exact served.isLt
  rw [press?, Panel.press, Keyboard.press_found (h.layout_eq ▸ found)]
  exact follow?_eq _ (Keyboard.fits_actuate h.mirrors.turned found) hslots h.mirrors.texts_length h.mirrors.lit_length

theorem press (h : Serving layout past panel) {index : Nat} {key : Key} (found : layout.key? index = some key) :
    Serving layout (past ++ [.pressed key]) (panel.press index) := by
  have hlisteners := panel.keyboard.actuate_listeners index key
  rw [h.forgetful_eq, Bool.false_and, if_neg Bool.false_ne_true] at hlisteners
  have hbuilt := Display.built_follow (Keyboard.fits_actuate h.mirrors.turned found) Key.glyph panel.display
  rw [h.press_eq found]
  exact
    { mirrors := turns_pressed past key ▸ h.mirrors.actuate index key
      rows_eq := hbuilt.1.trans h.rows_eq
      wide_length := (congrArg List.length hbuilt.2).trans h.wide_length
      onInput_eq := (congrArg Prod.fst hlisteners).trans (latest_pressed past key ▸ h.onInput_eq)
      forgetful_eq := (panel.keyboard.actuate_built index key).2.trans h.forgetful_eq
      bound_eq := (Keyboard.Session.actuate_bound panel.keyboard index key).trans h.bound_eq
      visible_iff := by
        show (panel.keyboard.actuate index key).2.1.visible = true ↔ _
        rw [Keyboard.actuate_visible, Bool.and_eq_true, decide_eq_true_iff, h.visible_iff, asked_pressed]
      fields_length := (length_written _ _ _).trans h.fields_length
      field_eq := by
        intro slot
        rw [getElem?_written, h.field_eq, Option.map_map, typedInto_pressed]
        exact Option.map_congr fun field _ => (List.foldl_append).symm
      last_eq := (lastReport_pressed past key).symm }

/-- The buttons are the keys as caps lock left them, if there are any. -/
theorem buttons_eq (h : Serving layout past panel) :
    panel.buttons =
      if panel.keyboard.visible then layout.keys.map fun key => key.drawnAfter Key.glyph (turns past) else [] := by
  rw [buttons, h.mirrors.visible_eq, h.mirrors.texts_glyphs]

/-- No lookup fails when the rows are drawn, and what is drawn is all of the buttons. -/
theorem exists_drawn (h : Serving layout past panel) :
    ∃ drawn, panel.drawn? = some drawn ∧ drawn.map Button.text = panel.buttons := by
  unfold drawn? buttons
  cases panel.display.visible with
  | false => exact ⟨[], rfl, rfl⟩
  | true =>
      have hindices : panel.display.rows.flatMap Row.indices = List.range layout.size := by
        rw [h.rows_eq, layout.cut_rows.flatMap_indices, Nat.sub_zero, List.range_eq_range']
      obtain ⟨drawn, hdrawn, htexts⟩ := mapM_button? h.mirrors.texts_length h.wide_length h.mirrors.lit_length
        fun index => (List.mem_range (n := layout.size)).mp
      refine ⟨drawn, by rw [if_pos rfl, hindices, hdrawn], ?_⟩
      rw [← h.mirrors.texts_length] at htexts
      have hsome : (List.range panel.display.texts.length).map (panel.display.texts[·]?) =
          panel.display.texts.map some := by
        refine List.ext_getElem (by simp) fun index hleft hright => ?_
        simp
      exact (List.map_inj_right fun _ _ => Option.some.inj).mp (htexts.trans hsome)

theorem key_of_drawn (h : Serving layout past panel) {index : Nat} (hdrawn : index < panel.buttons.length) :
    ∃ key, layout.key? index = some key := by
  rw [h.buttons_eq] at hdrawn
  split_ifs at hdrawn
  · rw [List.length_map] at hdrawn
    exact ⟨_, List.getElem?_eq_getElem hdrawn⟩
  · cases hdrawn

theorem drawFields (h : Serving layout past panel) (frame : Frame) :
    Serving layout (past ++ frame.opening) (panel.drawFields frame) := by
  unfold Frame.opening Panel.drawFields
  cases frame.gained with
  | none => exact (List.append_nil past).symm ▸ h
  | some slot => exact h.gain slot

/-- What every frame passes on. -/
theorem update (h : Serving layout past panel) (frame : Frame) :
    Serving layout (past ++ panel.moments frame) (panel.update frame) := by
  have hopened := h.drawFields frame
  rw [moments, ← List.append_assoc]
  -- a click presses a key only if there is a button for it by now
  by_cases hclick : ∃ index ∈ frame.clicked, index < (panel.drawFields frame).buttons.length
  · obtain ⟨index, hclicked, hdrawn⟩ := hclick
    obtain ⟨key, found⟩ := hopened.key_of_drawn hdrawn
    obtain ⟨hupdate, hpressed⟩ := panel.update_click hclicked hdrawn
    rw [hupdate, hpressed, hopened.layout_eq, found]
    exact hopened.press found
  · have hidle : ∀ index ∈ frame.clicked, (panel.drawFields frame).buttons.length ≤ index := by
      intro index hclicked
      exact Nat.not_lt.mp fun hdrawn => hclick ⟨index, hclicked, hdrawn⟩
    obtain ⟨hupdate, hpressed⟩ := panel.update_idle hidle
    rw [hupdate, hpressed]
    exact (List.append_nil (past ++ frame.opening)).symm ▸ hopened

theorem update?_eq (h : Serving layout past panel) (frame : Frame) :
    panel.update? frame = some (panel.update frame) := by
  have hopened := h.drawFields frame
  have hfields : (frame.gained.elim (some panel) fun slot => panel.gain? slot) = some (panel.drawFields frame) := by
    unfold Panel.drawFields
    cases frame.gained with
    | none => rfl
    | some slot => exact h.gain?_eq slot
  obtain ⟨drawn, hdrawn, htexts⟩ := hopened.exists_drawn
  have hlength : drawn.length = (panel.drawFields frame).buttons.length := by
    rw [← htexts, List.length_map]
  simp only [update?, hfields, hdrawn, hlength, Option.bind_eq_bind, Option.bind_some, Panel.update]
  cases frame.clicked with
  | none => rfl
  | some index =>
      dsimp only
      split_ifs with hlt
      · obtain ⟨key, found⟩ := hopened.key_of_drawn hlt
        exact hopened.press?_eq found
      · rfl

/-! ### Runs -/

theorem after (h : Serving layout past panel) (frames : List Frame) :
    Serving layout (past ++ panel.course frames) (panel.after frames) := by
  induction frames generalizing past panel with
  | nil => exact (List.append_nil past).symm ▸ h
  | cons frame rest ih =>
      rw [course, ← List.append_assoc]
      exact ih (h.update frame)

theorem foldlM_update? (h : Serving layout past panel) (frames : List Frame) :
    frames.foldlM update? panel = some (panel.after frames) := by
  induction frames generalizing past panel with
  | nil => rfl
  | cons frame rest ih =>
      rw [List.foldlM_cons, h.update?_eq frame]
      exact ih (h.update frame)

/-- Gaining the focus changes no text. -/
theorem drawFields_texts (h : Serving layout past panel) (frame : Frame) :
    (panel.drawFields frame).fields = panel.fields ∧ (panel.drawFields frame).last = panel.last := by
  unfold Panel.drawFields
  cases frame.gained with
  | none => exact ⟨rfl, rfl⟩
  | some slot =>
      show (panel.gain slot).fields = _ ∧ (panel.gain slot).last = _
      rw [h.gain_eq]
      exact ⟨rfl, rfl⟩

/-- A press of done changes no field and closes. -/
theorem press_done (h : Serving layout past panel) {index : Nat} {key : Key} (found : layout.key? index = some key)
    (hrole : key.role = .done) :
    (panel.press index).fields = panel.fields ∧ (panel.press index).last = "done" ∧
      (panel.press index).keyboard.visible = false := by
  have houtcome : key.outcomeAfter (turns past) = .dismissed := by simp only [Key.outcomeAfter, hrole]
  rw [h.press_eq found, houtcome]
  refine ⟨?_, rfl, ?_⟩
  · show written _ _ _ = _
    unfold written
    cases latest past <;> rfl
  · show (panel.keyboard.actuate index key).2.1.visible = false
    rw [Keyboard.actuate_visible, hrole, decide_eq_false (by simp), Bool.and_false]

/-- A press of another key puts what the key types in place of the text of the field that is served, and leaves the
other field alone. -/
theorem press_typed (h : Serving layout past panel) {index : Nat} {key : Key} (found : layout.key? index = some key)
    (hrole : key.role ≠ .done) {slot : Fin 2} (hlatest : latest past = some slot) :
    ∃ value, key.outcomeAfter (turns past) = .typed value ∧ (panel.press index).textOf slot = value ∧
      (panel.press index).last = value ∧
      (panel.press index).keyboard.visible = panel.keyboard.visible ∧
      ∀ other : Fin 2, other ≠ slot → (panel.press index).fields[other.val]? = panel.fields[other.val]? := by
  obtain ⟨value, hvalue⟩ := panel.keyboard.typed_of_not_done index hrole
  have houtcome := (h.mirrors.turned.outcome_eq found).symm.trans hvalue
  refine ⟨value, houtcome, ?_, ?_, ?_, fun other hother => ?_⟩
  · rw [(h.press found).textOf_eq, typedInto_pressed, hlatest, houtcome, if_pos rfl]
    show (typedInto slot past ++ [value]).getLast?.getD _ = value
    rw [List.getLast?_concat, Option.getD_some]
  · rw [h.press_eq found, houtcome]
    rfl
  · rw [h.press_eq found]
    show (panel.keyboard.actuate index key).2.1.visible = _
    rw [Keyboard.actuate_visible, decide_eq_true hrole, Bool.and_true]
  · rw [h.press_eq found, getElem?_written, hlatest, if_neg fun hslot => hother (Option.some.inj hslot).symm]
    exact Option.map_id'

end Serving

/-- Along every run of frames no index is out of range, the keyboard is visible if and only if a field gained the focus
after the last press of done, each field has its first text or the last value typed while it was the field that gained
the focus last, and the caption is what the last press gave. In every further frame gaining the focus changes no
text, and the keys are drawn if and only if the keyboard is visible by then. A click on a drawn key presses it:
done changes no text, and what another key types replaces the text of the field that gained the focus last and nothing
else. -/
theorem updates_along_run (frames : List Frame) :
    let panel := start.after frames
    let past := start.course frames
    frames.foldlM update? start = some panel ∧
    (panel.keyboard.visible = true ↔ Asked past) ∧
    (∀ slot : Fin 2, panel.textOf slot = (typedInto slot past).getLast?.getD (start.textOf slot)) ∧
    panel.last = lastReport past ∧
    ∀ frame,
      let opened := panel.drawFields frame
      let updated := panel.update frame
      let now := past ++ frame.opening
      opened.fields = panel.fields ∧ opened.last = panel.last ∧
      (opened.keyboard.visible = true ↔ Asked now) ∧
      (∃ drawn, opened.drawn? = some drawn ∧ drawn.map Button.text = opened.buttons ∧
        opened.buttons = if opened.keyboard.visible then
          Layout.qwerty.keys.map fun key => key.drawnAfter Key.glyph (turns now) else []) ∧
      ((∀ index ∈ frame.clicked, opened.buttons.length ≤ index) → updated = opened) ∧
      ∀ index ∈ frame.clicked, index < opened.buttons.length →
        ∃ key slot, Layout.qwerty.key? index = some key ∧ latest now = some slot ∧
          opened.keyboard.press index =
            .ok (key.outcomeAfter (turns now), opened.keyboard.pressing index key) ∧
          (key.role = .done →
            updated.fields = panel.fields ∧ updated.last = "done" ∧ updated.keyboard.visible = false) ∧
          (key.role ≠ .done →
            ∃ value, key.outcomeAfter (turns now) = .typed value ∧ updated.textOf slot = value ∧
              updated.last = value ∧ updated.keyboard.visible = true ∧
              ∀ other : Fin 2, other ≠ slot → updated.fields[other.val]? = panel.fields[other.val]?) := by
  intro panel past
  have h : Serving Layout.qwerty past panel := serving_start.after frames
  refine ⟨serving_start.foldlM_update? frames, h.visible_iff, h.textOf_eq, h.last_eq, fun frame => ?_⟩
  intro opened updated now
  have hopened : Serving Layout.qwerty now opened := h.drawFields frame
  obtain ⟨hfields, hlast⟩ := h.drawFields_texts frame
  obtain ⟨drawn, hdrawn, htexts⟩ := hopened.exists_drawn
  refine ⟨hfields, hlast, hopened.visible_iff, ⟨drawn, hdrawn, htexts, hopened.buttons_eq⟩,
    fun hidle => (panel.update_idle hidle).1, fun index hclicked hlt => ?_⟩
  obtain ⟨key, found⟩ := hopened.key_of_drawn hlt
  have hvisible : opened.keyboard.visible = true := by
    by_contra hhidden
    rw [hopened.buttons_eq, if_neg hhidden] at hlt
    cases hlt
  obtain ⟨slot, hlatest⟩ := exists_latest (hopened.visible_iff.mp hvisible)
  have hupdated : updated = opened.press index := (panel.update_click hclicked hlt).1
  refine ⟨key, slot, found, hlatest, ?_, fun hrole => ?_, fun hrole => ?_⟩
  · rw [Keyboard.press_found (hopened.layout_eq ▸ found), hopened.mirrors.turned.outcome_eq found]
  · rw [hupdated, ← hfields]
    exact hopened.press_done found hrole
  · rw [hupdated, ← hfields, ← hvisible]
    exact hopened.press_typed found hrole hlatest

-- the third click is on a key that was drawn until done closed the keyboard
example :
    let panel := start.after
      [⟨some 0, some 31⟩, ⟨none, some 68⟩, ⟨none, some 31⟩, ⟨some 1, none⟩, ⟨none, some 44⟩, ⟨none, some 32⟩]
    [panel.textOf 0, panel.textOf 1, panel.last] = ["q", "W", "W"] := by
  decide +kernel

end Panel

end ScreenKeyboard
