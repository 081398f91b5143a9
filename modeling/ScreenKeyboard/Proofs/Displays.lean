import ScreenKeyboard.Proofs.Legends

/-!
What a display shows along a run. A display is only told of changes, and it may have drawn icons in a way of
its own before the first of them; still it shows what the keys of the keyboard show, and is visible when the
keyboard is (`Mirrors`, which every step of the keyboard preserves). `display_along_run` says so of runs.
-/

namespace ScreenKeyboard

def Event.draw? : Event → Option Draw
  | .draw command => some command
  | _ => none

/-- The index of the key that a command is about, if it is about one key. -/
def Draw.index? : Draw → Option Nat
  | .rewrite index _ => some index
  | .light index _ => some index
  | _ => none

/-- Of a command, that it builds no keys and that the key it is about is among the first `size`. -/
def Draw.Fits (size : Nat) : Draw → Prop
  | .mount _ => False
  | .rewrite index _ => index < size
  | .light index _ => index < size
  | .reveal | .hide => True

theorem Draw.Fits.index_lt {size index : Nat} {command : Draw} (h : command.Fits size)
    (hindex : command.index? = some index) : index < size := by
  cases command with
  | rewrite position legend =>
      obtain rfl := Option.some.inj hindex
      exact h
  | light position lit =>
      obtain rfl := Option.some.inj hindex
      exact h
  | _ => cases hindex

namespace Display

theorem follow_eq (face : Key → String) (display : Display) (events : List Event) :
    display.follow face events = (events.filterMap Event.draw?).foldl (draw face) display := by
  induction events generalizing display with
  | nil => rfl
  | cons event rest ih =>
      cases event with
      | draw command => exact ih (display.draw face command)
      | _ => exact ih display

/-- A command that builds no keys leaves as many texts and lights as there were. -/
theorem lengths_draw {size : Nat} {command : Draw} (h : command.Fits size) (face : Key → String)
    (display : Display) :
    (display.draw face command).texts.length = display.texts.length ∧
      (display.draw face command).lit.length = display.lit.length := by
  cases command with
  | mount layout => exact absurd h id
  | rewrite index legend => exact ⟨List.length_set, rfl⟩
  | light index lit => exact ⟨rfl, List.length_set⟩
  | _ => exact ⟨rfl, rfl⟩

theorem lengths_foldl {size : Nat} {commands : List Draw} (h : ∀ command ∈ commands, command.Fits size)
    (face : Key → String) (display : Display) :
    (commands.foldl (draw face) display).texts.length = display.texts.length ∧
      (commands.foldl (draw face) display).lit.length = display.lit.length := by
  induction commands generalizing display with
  | nil => exact ⟨rfl, rfl⟩
  | cons command rest ih =>
      obtain ⟨hfits, hrest⟩ := List.forall_mem_cons.mp h
      obtain ⟨htexts, hlit⟩ := ih hrest (display.draw face command)
      obtain ⟨hdrawnTexts, hdrawnLit⟩ := lengths_draw hfits face display
      exact ⟨htexts.trans hdrawnTexts, hlit.trans hdrawnLit⟩

end Display

/-- What a display that draws keys as `face` does at first shows on a key after `n` turns of caps lock. -/
def Key.drawnAfter (key : Key) (face : Key → String) (n : Nat) : String :=
  match key.icon with
  | some _ => face key
  | none => Legend.afterTurns key.label n

/-- What is shown on a key is what a display with all icons draws on it. -/
theorem Key.legendAfter_eq_drawnAfter (key : Key) (n : Nat) : key.legendAfter n = key.drawnAfter Key.legend n := by
  cases hicon : key.icon <;> simp [drawnAfter, legendAfter, legend, hicon]

namespace Keyboard

/-! ### The commands of a step -/

theorem fits_rewrites (index : Nat) (changes : List (Option String)) :
    ∀ command ∈ rewrites index changes, command.Fits (index + changes.length) := by
  induction changes generalizing index with
  | nil => simp [rewrites]
  | cons change rest ih =>
      intro command hcommand
      have hrest : ∀ later ∈ rewrites (index + 1) rest, later.Fits (index + (rest.length + 1)) := by
        rw [show index + (rest.length + 1) = index + 1 + rest.length by omega]
        exact ih (index + 1)
      cases change with
      | none => exact hrest command hcommand
      | some legend =>
          rcases List.mem_cons.mp hcommand with rfl | hlater
          · exact Nat.lt_add_of_pos_right (Nat.succ_pos _)
          · exact hrest command hlater

/-- The new legends replace the texts that are on the display, whatever these are. -/
theorem draw_rewrites (face : Key → String) (changes : List (Option String)) :
    ∀ (display : Display) (left right : List String), display.texts = left ++ right →
      changes.length = right.length →
      (rewrites left.length changes).foldl (Display.draw face) display =
        { display with texts := left ++ List.zipWith (fun text change => change.getD text) right changes } := by
  induction changes with
  | nil =>
      intro display left right htexts hlength
      rw [List.eq_nil_of_length_eq_zero hlength.symm] at htexts ⊢
      rw [List.zipWith_nil_left, ← htexts]
      rfl
  | cons change rest ih =>
      intro display left right htexts hlength
      cases right with
      | nil => cases hlength
      | cons text right =>
          have hrest : rest.length = right.length := Nat.succ.inj hlength
          cases change with
          | none =>
              have htexts' : display.texts = (left ++ [text]) ++ right := by rw [htexts]; simp
              have hdrawn := ih display (left ++ [text]) right htexts' hrest
              rw [List.length_append, List.length_singleton] at hdrawn
              rw [rewrites, hdrawn]
              simp
          | some legend =>
              have htexts' : (display.texts.set left.length legend) = (left ++ [legend]) ++ right := by
                rw [htexts]
                simp
              have hdrawn := ih { display with texts := display.texts.set left.length legend }
                (left ++ [legend]) right htexts' hrest
              rw [List.length_append, List.length_singleton] at hdrawn
              rw [rewrites, List.foldl_cons]
              exact hdrawn.trans (by simp)

theorem filterMap_draw (commands : List Draw) : (commands.map Event.draw).filterMap Event.draw? = commands := by
  induction commands with
  | nil => rfl
  | cons command rest ih => exact congrArg (command :: ·) ih

theorem open_draws (keyboard : Keyboard) (value : String) (onInput : Option Listener) (onClose : Option String) :
    (keyboard.open value onInput onClose).2.filterMap Event.draw? = [.reveal] := by
  cases hvisible : keyboard.visible <;> simp only [Keyboard.open, hvisible] <;> rfl

theorem emit_draws (keyboard : Keyboard) (value : String) :
    (keyboard.emit value).2.filterMap Event.draw? = [] := by
  rw [emit]
  cases keyboard.onInput <;> rfl

/-- The commands of a press: caps lock redraws legends and lights its key, done hides, other keys draw
nothing. -/
theorem actuate_draws (keyboard : Keyboard) (index : Nat) (key : Key) :
    (keyboard.actuate index key).2.2.filterMap Event.draw? =
      match key.role with
      | .capsLock =>
        rewrites 0 (recased (!keyboard.capsLock) keyboard.layout.keys keyboard.legends) ++
          [.light index (!keyboard.capsLock)]
      | .done => [.hide]
      | _ => [] := by
  cases hrole : key.role with
  | capsLock =>
      simp only [actuate, hrole, List.filterMap_append, emit_draws, turnCapsLock, filterMap_draw]
      rfl
  | done =>
      simp only [actuate, hrole, List.filterMap_append]
      cases keyboard.onClose <;> rfl
  | _ =>
      simp only [actuate, hrole]
      exact emit_draws keyboard _

theorem fits_open (size : Nat) (keyboard : Keyboard) (value : String) (onInput : Option Listener)
    (onClose : Option String) :
    ∀ command ∈ (keyboard.open value onInput onClose).2.filterMap Event.draw?, command.Fits size := by
  rw [open_draws]
  exact fun command hcommand => List.mem_singleton.mp hcommand ▸ trivial

theorem fits_actuate {layout : Layout} {n : Nat} {keyboard : Keyboard} (h : Turned layout n keyboard)
    {index : Nat} {key : Key} (found : layout.key? index = some key) :
    ∀ command ∈ (keyboard.actuate index key).2.2.filterMap Event.draw?, command.Fits layout.size := by
  rw [actuate_draws]
  cases key.role with
  | capsLock =>
      have hindex : index < layout.size := (List.getElem?_eq_some_iff.mp found).1
      have hlength : (recased (!keyboard.capsLock) keyboard.layout.keys keyboard.legends).length = layout.size := by
        rw [recased, h.layout_eq, h.legends_eq, List.length_zipWith, List.length_map, Nat.min_self, Layout.size]
      intro command hcommand
      rcases List.mem_append.mp hcommand with hrewrite | hlight
      · have hfits := fits_rewrites 0 _ command hrewrite
        rwa [Nat.zero_add, hlength] at hfits
      · rw [List.mem_singleton.mp hlight]
        exact hindex
  | done => exact fun command hcommand => List.mem_singleton.mp hcommand ▸ trivial
  | _ => exact fun command hcommand => absurd hcommand List.not_mem_nil

/-! ### The display and the keyboard -/

/-- A display that follows the keyboard of a layout after `n` turns of caps lock. -/
structure Mirrors (face : Key → String) (layout : Layout) (n : Nat) (keyboard : Keyboard) (display : Display) :
    Prop where
  turned : Turned layout n keyboard
  texts_length : display.texts.length = layout.size
  lit_length : display.lit.length = layout.size
  texts_eq : (∀ key : Key, key.icon = none → face key = key.label) →
    display.texts = layout.keys.map fun key => key.drawnAfter face n
  visible_eq : display.visible = keyboard.visible
  mounts_eq : display.mounts = 1

namespace Mirrors

variable {face : Key → String} {layout : Layout} {n : Nat} {keyboard : Keyboard} {display : Display}

theorem ofLayout (face : Key → String) (layout : Layout) (forgetful : Bool) :
    Mirrors face layout 0 (ofLayout layout forgetful) (Display.blank.draw face (.mount layout)) where
  turned := Turned.ofLayout layout forgetful
  texts_length := List.length_map _
  lit_length := List.length_map _
  texts_eq := by
    intro hface
    refine List.map_congr_left fun key _ => ?_
    cases hicon : key.icon with
    | none => rw [Key.drawnAfter, hicon, hface key hicon, Legend.afterTurns_zero]
    | some icon => rw [Key.drawnAfter, hicon]
  visible_eq := rfl
  mounts_eq := rfl

/-- A step that leaves layout, caps lock and legends alone needs no drawing but for the visibility. -/
theorem withVisible {other : Keyboard} {visible : Bool} (h : Mirrors face layout n keyboard display)
    (hturned : Turned layout n other) (hvisible : other.visible = visible) :
    Mirrors face layout n other { display with visible } where
  turned := hturned
  texts_length := h.texts_length
  lit_length := h.lit_length
  texts_eq := h.texts_eq
  visible_eq := hvisible.symm
  mounts_eq := h.mounts_eq

end Mirrors

/-- The new legend of a key without icon is what a display shows on it after the turn. -/
theorem drawnAfter_succ (face : Key → String) (key : Key) (n : Nat) :
    key.drawnAfter face (n + 1) =
      (if key.icon.isSome then none
        else Legend.recase? (decide ((n + 1) % 2 = 1)) (key.legendAfter n)).getD (key.drawnAfter face n) := by
  cases hicon : key.icon with
  | some icon => simp [Key.drawnAfter, hicon]
  | none =>
      have hlegend := key.legendAfter_succ n
      simp only [Key.legendAfter, hicon, Option.isSome_none, Bool.false_eq_true, if_false] at hlegend ⊢
      simp only [Key.drawnAfter, hicon]
      exact hlegend

namespace Mirrors

variable {face : Key → String} {layout : Layout} {n : Nat} {keyboard : Keyboard} {display : Display}

theorem turn {other : Keyboard} (h : Mirrors face layout n keyboard display) (index : Nat)
    (hturned : Turned layout (n + 1) other) (hvisible : other.visible = keyboard.visible) :
    Mirrors face layout (n + 1) other
      ((rewrites 0 (recased (!keyboard.capsLock) keyboard.layout.keys keyboard.legends) ++
        [Draw.light index (!keyboard.capsLock)]).foldl (Display.draw face) display) := by
  have hchanges : recased (!keyboard.capsLock) keyboard.layout.keys keyboard.legends =
      layout.keys.map fun key => if key.icon.isSome then none
        else Legend.recase? (decide ((n + 1) % 2 = 1)) (key.legendAfter n) := by
    rw [h.turned.not_capsLock, h.turned.layout_eq, h.turned.legends_eq, recased, List.zipWith_map_right,
      List.zipWith_self]
  have hlength : (recased (!keyboard.capsLock) keyboard.layout.keys keyboard.legends).length =
      display.texts.length := by
    rw [hchanges, List.length_map, h.texts_length, Layout.size]
  have hdrawn := draw_rewrites face _ display [] display.texts rfl hlength
  rw [List.length_nil, List.nil_append] at hdrawn
  rw [List.foldl_append, hdrawn]
  refine ⟨hturned, ?_, ?_, ?_, h.visible_eq.trans hvisible.symm, h.mounts_eq⟩
  · simp [Display.draw, hlength, h.texts_length]
  · exact List.length_set.trans h.lit_length
  · intro hface
    show List.zipWith _ display.texts (recased _ _ _) = _
    rw [hchanges, h.texts_eq hface, List.zipWith_map, List.zipWith_self]
    exact List.map_congr_left fun key _ => (drawnAfter_succ face key n).symm

theorem texts_legend (h : Mirrors Key.legend layout n keyboard display) (index : Nat) :
    display.texts[index]? = keyboard.legend? index := by
  have hface : ∀ key : Key, key.icon = none → key.legend = key.label := by
    intro key hicon
    rw [Key.legend, hicon]
  rw [h.texts_eq hface, legend?, h.turned.legends_eq]
  simp only [Key.legendAfter_eq_drawnAfter]

theorem texts_glyphs (h : Mirrors Key.glyph layout n keyboard display) :
    display.texts = layout.keys.map fun key => key.drawnAfter Key.glyph n := by
  refine h.texts_eq fun key hicon => ?_
  rw [Key.glyph, hicon]

theorem texts_glyph (h : Mirrors Key.glyph layout n keyboard display) {index : Nat} {key : Key}
    (hkey : layout.key? index = some key) :
    display.texts[index]? =
      match key.icon with
      | some icon => some icon.symbol
      | none => keyboard.legend? index := by
  rw [h.texts_glyphs, h.turned.legend?_eq, hkey, List.getElem?_map,
    show layout.keys[index]? = some key from hkey]
  cases hicon : key.icon <;> simp [Key.drawnAfter, Key.legendAfter, Key.glyph, hicon]

/-! ### Steps -/

theorem «open» (h : Mirrors face layout n keyboard display) (value : String) (onInput : Option Listener)
    (onClose : Option String) :
    Mirrors face layout n (keyboard.open value onInput onClose).1
      (display.follow face (keyboard.open value onInput onClose).2) := by
  rw [Display.follow_eq, open_draws]
  exact h.withVisible (h.turned.congr rfl rfl rfl) rfl

theorem close (h : Mirrors face layout n keyboard display) :
    Mirrors face layout n keyboard.close.1 (display.follow face keyboard.close.2) :=
  h.withVisible (h.turned.congr rfl rfl rfl) rfl

theorem actuate (h : Mirrors face layout n keyboard display) (index : Nat) (key : Key) :
    Mirrors face layout (if key.isToggle then n + 1 else n) (keyboard.actuate index key).2.1
      (display.follow face (keyboard.actuate index key).2.2) := by
  have hturned := h.turned.actuate index key
  rw [Display.follow_eq, actuate_draws]
  cases hrole : key.role with
  | capsLock =>
      have htoggle : key.isToggle = true := decide_eq_true hrole
      rw [htoggle, if_pos rfl] at hturned ⊢
      exact h.turn index hturned (by simp only [Keyboard.actuate, hrole]; rfl)
  | done =>
      have htoggle : key.isToggle = false := decide_eq_false (by simp [hrole])
      rw [htoggle, if_neg Bool.false_ne_true] at hturned ⊢
      exact h.withVisible hturned (by simp only [Keyboard.actuate, hrole]; rfl)
  | _ =>
      have htoggle : key.isToggle = false := decide_eq_false (by simp [hrole])
      rw [htoggle, if_neg Bool.false_ne_true] at hturned ⊢
      exact h.withVisible hturned (h.visible_eq ▸ by simp only [Keyboard.actuate, hrole]; rfl)

end Mirrors

/-! ### Sessions -/

def Notice.draw? : Notice → Option Draw
  | .draw command => some command
  | _ => none

/-- The commands that were given to the display in an exchange. -/
def Exchange.draws (exchange : Exchange) : List Draw :=
  exchange.notices.filterMap Notice.draw?

namespace Session

theorem observeAll_draws (session : Session) (events : List Event) :
    (session.observeAll events).2.filterMap Notice.draw? = events.filterMap Event.draw? ∧
      (session.observeAll events).1.display = session.display.follow Key.legend events := by
  induction events generalizing session with
  | nil => exact ⟨rfl, rfl⟩
  | cons event rest ih =>
      obtain ⟨hdraws, hdisplay⟩ := ih (session.observe event).1
      cases event with
      | draw command => exact ⟨congrArg (command :: ·) hdraws, hdisplay⟩
      | input listener value => cases listener <;> exact ⟨hdraws, hdisplay⟩
      | closed name => exact ⟨hdraws, hdisplay⟩
      | log record => exact ⟨hdraws, hdisplay⟩

theorem advance_draws (session : Session) (outcome : Keyboard × List Event) :
    (session.advance outcome).2.filterMap Notice.draw? = outcome.2.filterMap Event.draw? ∧
      (session.advance outcome).1.display = session.display.follow Key.legend outcome.2 :=
  observeAll_draws _ _

/-- A single request leaves a display that follows the keyboard, wherever it is, following it. -/
theorem mirrors_exchange {face : Key → String} {layout : Layout} {past : List Exchange} {session : Session}
    {display : Display} {request : Request} (single : request.isSingle = true)
    (h : Mirrors face layout (turns layout past) session.keyboard display) :
    Mirrors face layout (turns layout (past ++ [session.exchange request]))
      (session.exchange request).after.keyboard
      ((session.exchange request).draws.foldl (Display.draw face) display) := by
  rw [turns_concat]
  cases course_exchange session single with
  | press index key named found moved left noticed =>
      rw [Exchange.pressed?_of_move moved h.turned.layout_eq named found, left, advance_keyboard,
        Exchange.draws, noticed, (advance_draws _ _).1, Option.any_some]
      have hactuated := h.actuate index key
      rw [Display.follow_eq] at hactuated
      split_ifs at hactuated ⊢ with htoggle <;> exact hactuated
  | «open» value onInput onClose moved left noticed =>
      simp only [Exchange.pressed?, moved]
      rw [left, advanceOpening_keyboard, Exchange.draws, noticed, advanceOpening, (advance_draws _ _).1,
        ← Display.follow_eq]
      exact h.open value onInput onClose
  | close moved left noticed =>
      simp only [Exchange.pressed?, moved]
      rw [left, advance_keyboard, Exchange.draws, noticed, (advance_draws _ _).1, ← Display.follow_eq]
      exact h.close
  | rest moved silent kept =>
      obtain ⟨bound, hbound⟩ := kept
      simp only [Exchange.pressed?, moved]
      rw [hbound, Exchange.draws, silent]
      exact h.withVisible (h.turned.congr rfl rfl rfl) h.visible_eq.symm

theorem fits_exchange {layout : Layout} {n : Nat} {session : Session} {request : Request}
    (single : request.isSingle = true) (h : Turned layout n session.keyboard) :
    ∀ command ∈ (session.exchange request).draws, command.Fits layout.size := by
  cases course_exchange session single with
  | press index key named found moved left noticed =>
      rw [Exchange.draws, noticed, (advance_draws _ _).1]
      exact fits_actuate h (h.layout_eq ▸ found)
  | «open» value onInput onClose moved left noticed =>
      rw [Exchange.draws, noticed, advanceOpening, (advance_draws _ _).1]
      exact fits_open layout.size _ value onInput onClose
  | close moved left noticed =>
      rw [Exchange.draws, noticed, (advance_draws _ _).1]
      exact fun command hcommand => List.mem_singleton.mp hcommand ▸ trivial
  | rest moved silent kept =>
      rw [Exchange.draws, silent]
      exact fun command hcommand => absurd hcommand List.not_mem_nil

theorem advance_display (session : Session) (outcome : Keyboard × List Event) :
    (session.advance outcome).1.display =
      ((session.advance outcome).2.filterMap Notice.draw?).foldl (Display.draw Key.legend) session.display := by
  obtain ⟨hdraws, hdisplay⟩ := session.advance_draws outcome
  rw [hdraws, hdisplay, Display.follow_eq]

theorem pressWith_display (session : Session) (attempt : Except Refusal (Outcome × Keyboard × List Event)) :
    (session.pressWith attempt).2.1.display =
      ((session.pressWith attempt).2.2.filterMap Notice.draw?).foldl (Display.draw Key.legend) session.display := by
  rcases attempt with refusal | ⟨outcome, keyboard, events⟩
  · rfl
  · exact session.advance_display (keyboard, events)

theorem bindSlot_display (session : Session) (slot : Nat) :
    (session.bindSlot slot).2.display = session.display := by
  unfold bindSlot
  split <;> rfl

theorem bindAll_display (session : Session) (fields : List Field) :
    (session.bindAll fields).2.display = session.display := by
  induction fields generalizing session with
  | nil => rfl
  | cons field rest ih =>
      rw [bindAll, ih, bindSlot_display]

/-- Unless the host blanks it, the display of a session changes by the commands it is given and by nothing
else. -/
theorem display_exchange (session : Session) {request : Request} (single : request.isSingle = true)
    (unblanked : request ≠ .blankDisplay) :
    (session.exchange request).after.display =
      (session.exchange request).draws.foldl (Display.draw Key.legend) session.display := by
  cases request with
  | type labels => exact absurd single Bool.false_ne_true
  | «open» value onInput onClose =>
      exact advance_display { session with inputCalls := 0, closeCalls := 0 }
        (session.keyboard.open value (onInput.map .caller) onClose)
  | close => exact session.advance_display session.keyboard.close
  | press index => exact session.pressWith_display (session.keyboard.press index)
  | pressLabel label => exact session.pressWith_display (session.keyboard.pressLabel label)
  | bind fields => exact session.bindAll_display fields
  | rebind name =>
      rw [Exchange.draws, exchange, step]
      cases session.slotOf? name with
      | none => rfl
      | some slot => exact session.bindSlot_display slot
  | focus id =>
      rw [Exchange.draws, exchange, step]
      cases session.keyboard.focus id session.textOf with
      | error refusal => rfl
      | ok outcome => exact advance_display { session with inputCalls := 0, closeCalls := 0 } outcome
  | edit name text =>
      rw [Exchange.draws, exchange, step]
      cases session.slotOf? name <;> rfl
  | blankDisplay => exact absurd rfl unblanked

/-! ### Runs -/

/-- What a run leaves of the commands that were given: they fit the layout, and a display that carried them
out follows the keyboard. -/
structure Followed (layout : Layout) (past : List Exchange) (session : Session) : Prop where
  fits : ∀ command ∈ past.flatMap Exchange.draws, command.Fits layout.size
  mirrors : ∀ face, Mirrors face layout (turns layout past) session.keyboard
    ((past.flatMap Exchange.draws).foldl (Display.draw face) (Display.blank.draw face (.mount layout)))
  display_eq : (∀ exchange ∈ past, exchange.request ≠ .blankDisplay) →
    session.display = (past.flatMap Exchange.draws).foldl (Display.draw Key.legend)
      (Display.blank.draw Key.legend (.mount layout))

theorem followed_start (layout : Layout) (forgetful : Bool) :
    Followed layout [] (start layout forgetful).1 where
  fits := by simp
  mirrors := fun face => .ofLayout face layout forgetful
  display_eq := fun _ => rfl

theorem followed_exchange {layout : Layout} (past : List Exchange) (session : Session) (request : Request)
    (single : request.isSingle = true) (h : Followed layout past session) :
    Followed layout (past ++ [session.exchange request]) (session.exchange request).after := by
  have hdraws : (past ++ [session.exchange request]).flatMap Exchange.draws =
      past.flatMap Exchange.draws ++ (session.exchange request).draws := by
    rw [List.flatMap_append, List.flatMap_singleton]
  refine ⟨?_, fun face => ?_, fun hunblanked => ?_⟩
  · rw [hdraws]
    intro command hcommand
    rcases List.mem_append.mp hcommand with hearlier | hnow
    · exact h.fits command hearlier
    · exact fits_exchange single (h.mirrors Key.legend).turned command hnow
  · rw [hdraws, List.foldl_append]
    exact mirrors_exchange single (h.mirrors face)
  · rw [hdraws, List.foldl_append, ← h.display_eq fun exchange hmem => hunblanked exchange (by simp [hmem])]
    exact display_exchange session single (hunblanked (session.exchange request) (by simp))

/-- The display of a run: one that draws keys as `face` does at first and carried out every command since. -/
def displayAfter (face : Key → String) (layout : Layout) (forgetful : Bool) (requests : List Request) : Display :=
  (((start layout forgetful).1.history requests).flatMap Exchange.draws).foldl (Display.draw face)
    (Display.blank.draw face (.mount layout))

theorem mirrors_displayAfter (face : Key → String) (layout : Layout) (forgetful : Bool) (requests : List Request) :
    Mirrors face layout (turns layout ((start layout forgetful).1.history requests))
      ((start layout forgetful).1.after requests).keyboard (displayAfter face layout forgetful requests) :=
  (history_induction (followed_start layout forgetful) followed_exchange requests).mirrors face

theorem unblanked_history {session : Session} {requests : List Request} (h : .blankDisplay ∉ requests) :
    ∀ exchange ∈ session.history requests, exchange.request ≠ .blankDisplay := by
  intro exchange hmem hblank
  obtain ⟨before, request, hrequest, rfl⟩ := exists_of_mem_exchanges hmem
  obtain rfl : request = .blankDisplay := hblank
  obtain ⟨whole, hwhole, hsingle⟩ := List.mem_flatMap.mp hrequest
  cases whole with
  | type labels => simp [Request.singles] at hsingle
  | _ =>
      rw [← List.mem_singleton.mp hsingle] at hwhole
      exact h hwhole

/-- When a command is carried out that is about one key, the display has that key. -/
theorem index_lt_of_split {layout : Layout} {commands earlier later : List Draw} {command : Draw} {index : Nat}
    (hfits : ∀ command ∈ commands, command.Fits layout.size)
    (hsplit : .mount layout :: commands = earlier ++ command :: later) (hindex : command.index? = some index) :
    index < layout.size ∧ ∀ face,
      index < (earlier.foldl (Display.draw face) Display.blank).texts.length ∧
      index < (earlier.foldl (Display.draw face) Display.blank).lit.length := by
  cases earlier with
  | nil =>
      obtain ⟨rfl, -⟩ := List.cons.inj hsplit
      cases hindex
  | cons first earlier =>
      obtain ⟨rfl, rfl⟩ : _ = first ∧ _ = earlier ++ command :: later := List.cons.inj hsplit
      have hlt := (hfits command (by simp)).index_lt hindex
      refine ⟨hlt, fun face => ?_⟩
      obtain ⟨htexts, hlit⟩ := Display.lengths_foldl
        (fun command hmem => hfits command (List.mem_append_left _ hmem)) face
        (Display.blank.draw face (.mount layout))
      have hmounted := Mirrors.ofLayout face layout false
      rw [List.foldl_cons, htexts, hlit, hmounted.texts_length, hmounted.lit_length]
      exact ⟨hlt, hlt⟩

/-- Along every run, the display is built once and then told only of keys that it has, and what it shows
then is what the keyboard's keys show; a display that draws symbols for icons keeps these. -/
theorem display_along_run (layout : Layout) (forgetful : Bool) (requests : List Request) :
    let run := start layout forgetful
    let last := run.1.after requests
    let commands := (run.2 ++ (run.1.history requests).flatMap Exchange.notices).filterMap Notice.draw?
    let shown := fun face => commands.foldl (Display.draw face) Display.blank
    (.blankDisplay ∉ requests → last.display = shown Key.legend) ∧
    (∀ index, (shown Key.legend).texts[index]? = last.keyboard.legend? index) ∧
    (∀ index key, layout.key? index = some key → (shown Key.glyph).texts[index]? =
      match key.icon with
      | some icon => some icon.symbol
      | none => last.keyboard.legend? index) ∧
    (∀ face, (shown face).visible = last.keyboard.visible ∧ (shown face).mounts = 1 ∧
      (shown face).texts.length = layout.size ∧ (shown face).lit.length = layout.size) ∧
    (∃ rest, commands = .mount layout :: rest ∧ ∀ other, .mount other ∉ rest) ∧
    ∀ earlier command later index, commands = earlier ++ command :: later → command.index? = some index →
      index < layout.size ∧ ∀ face,
        index < (earlier.foldl (Display.draw face) Display.blank).texts.length ∧
        index < (earlier.foldl (Display.draw face) Display.blank).lit.length := by
  intro run last commands shown
  have h : Followed layout (run.1.history requests) last :=
    history_induction (followed_start layout forgetful) followed_exchange requests
  have hcommands : commands = .mount layout :: (run.1.history requests).flatMap Exchange.draws := by
    refine congrArg (Draw.mount layout :: ·) ?_
    exact List.filterMap_flatMap
  have hshown : ∀ face, shown face = ((run.1.history requests).flatMap Exchange.draws).foldl (Display.draw face)
      (Display.blank.draw face (.mount layout)) := by
    intro face
    simp only [shown, hcommands, List.foldl_cons]
  refine ⟨?_, ?_, ?_, ?_, ⟨_, hcommands, fun other hmount => h.fits _ hmount⟩, ?_⟩
  · intro hrequests
    rw [hshown]
    exact h.display_eq (unblanked_history hrequests)
  · intro index
    rw [hshown]
    exact (h.mirrors Key.legend).texts_legend index
  · intro index key hkey
    rw [hshown]
    exact (h.mirrors Key.glyph).texts_glyph hkey
  · intro face
    rw [hshown]
    exact ⟨(h.mirrors face).visible_eq, (h.mirrors face).mounts_eq, (h.mirrors face).texts_length,
      (h.mirrors face).lit_length⟩
  · intro earlier command later index hsplit hindex
    rw [hcommands] at hsplit
    exact index_lt_of_split h.fits hsplit hindex

end Session

end Keyboard

end ScreenKeyboard
