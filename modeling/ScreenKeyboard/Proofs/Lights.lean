import ScreenKeyboard.Proofs.Displays

/-!
Which keys are lit along a run. A press of a caps lock key lights or darkens that key alone, although it turns
caps lock over for all of them. So a key shows the state of caps lock if caps lock was turned over an even
number of times since the key was last pressed, and the opposite state otherwise (`lights_along_run`). On a
layout with a single caps lock key its light and the state always agree.
-/

namespace ScreenKeyboard.Keyboard

namespace Exchange

/-- The index of the caps lock key that an exchange pressed, if it pressed one. -/
def turned? (layout : Layout) (exchange : Exchange) : Option Nat :=
  match exchange.move with
  | .press _ => (exchange.request.index? layout).filter fun index => (layout.key? index).any Key.isToggle
  | _ => none

variable {layout : Layout} {exchange : Exchange} {index : Nat} {key : Key} {outcome : Outcome}

theorem isToggle_of_turned? (h : exchange.turned? layout = some index) :
    (layout.key? index).any Key.isToggle = true := by
  unfold turned? at h
  split at h
  · exact (Option.filter_eq_some_iff.mp h).2
  · cases h

theorem lt_of_turned? (h : exchange.turned? layout = some index) : index < layout.size := by
  have htoggle := isToggle_of_turned? h
  cases hkey : layout.key? index with
  | none =>
      rw [hkey] at htoggle
      cases htoggle
  | some key => exact (List.getElem?_eq_some_iff.mp hkey).1

theorem isSome_turned? (layout : Layout) (exchange : Exchange) :
    (exchange.turned? layout).isSome = (exchange.pressed? layout).any Key.isToggle := by
  unfold turned? pressed?
  cases exchange.move with
  | press outcome =>
      cases exchange.request.index? layout with
      | none => rfl
      | some index => cases htoggle : (layout.key? index).any Key.isToggle <;> simp [Option.filter, htoggle]
  | _ => rfl

theorem turned?_of_press (moved : exchange.move = .press outcome)
    (hlayout : exchange.before.keyboard.layout = layout)
    (named : exchange.request.index? exchange.before.keyboard.layout = some index)
    (found : exchange.before.keyboard.layout.key? index = some key) :
    exchange.turned? layout = if key.isToggle then some index else none := by
  rw [turned?, moved, ← hlayout, named]
  simp only [Option.filter, found, Option.any_some]

end Exchange

/-! ### One step -/

theorem lit_rewrites (face : Key → String) (changes : List (Option String)) :
    ∀ (index : Nat) (display : Display),
      ((rewrites index changes).foldl (Display.draw face) display).lit = display.lit := by
  induction changes with
  | nil => exact fun _ _ => rfl
  | cons change rest ih =>
      intro index display
      cases change with
      | none => exact ih (index + 1) display
      | some legend => exact ih (index + 1) (display.draw face (.rewrite index legend))

theorem actuate_lit (keyboard : Keyboard) (index : Nat) (key : Key) (display : Display) :
    (((keyboard.actuate index key).2.2.filterMap Event.draw?).foldl (Display.draw Key.legend) display).lit =
      if key.isToggle then display.lit.set index (!keyboard.capsLock) else display.lit := by
  rw [actuate_draws]
  cases hrole : key.role with
  | capsLock =>
      rw [Key.isToggle, hrole, decide_eq_true rfl, if_pos rfl, List.foldl_append]
      exact congrArg (List.set · index (!keyboard.capsLock)) (lit_rewrites Key.legend _ 0 display)
  | _ =>
      rw [Key.isToggle, hrole]
      rfl

theorem actuate_capsLock (keyboard : Keyboard) (index : Nat) (key : Key) :
    (keyboard.actuate index key).2.1.capsLock =
      if key.isToggle then !keyboard.capsLock else keyboard.capsLock := by
  cases hrole : key.role <;> simp only [actuate, Key.isToggle, hrole] <;> rfl

namespace Session

/-- Even a display that the host blanked is lit by the commands alone. -/
theorem lit_exchange (session : Session) {request : Request} (single : request.isSingle = true) :
    (session.exchange request).after.display.lit =
      ((session.exchange request).draws.foldl (Display.draw Key.legend) session.display).lit := by
  by_cases hblank : request = .blankDisplay
  · rw [hblank]
    rfl
  · rw [display_exchange session single hblank]

/-- A press of a caps lock key turns caps lock over and brings the light of this key into line; nothing else
changes caps lock or a light. -/
theorem lights_exchange {layout : Layout} {session : Session} {request : Request}
    (single : request.isSingle = true) (hlayout : session.keyboard.layout = layout) :
    (∃ index, (session.exchange request).turned? layout = some index ∧
      (session.exchange request).after.keyboard.capsLock = !session.keyboard.capsLock ∧
      (session.exchange request).after.display.lit =
        session.display.lit.set index (!session.keyboard.capsLock)) ∨
    (session.exchange request).turned? layout = none ∧
      (session.exchange request).after.keyboard.capsLock = session.keyboard.capsLock ∧
      (session.exchange request).after.display.lit = session.display.lit := by
  rw [lit_exchange session single]
  cases course_exchange session single with
  | press index key named found moved left noticed =>
      rw [Exchange.turned?_of_press moved hlayout named found, left, advance_keyboard, Exchange.draws, noticed,
        (advance_draws _ _).1]
      have hcaps := actuate_capsLock session.keyboard index key
      have hlit := actuate_lit session.keyboard index key session.display
      cases htoggle : key.isToggle with
      | true =>
          rw [htoggle, if_pos rfl] at hcaps hlit
          exact Or.inl ⟨index, if_pos rfl, hcaps, hlit⟩
      | false =>
          rw [htoggle, if_neg Bool.false_ne_true] at hcaps hlit
          exact Or.inr ⟨if_neg Bool.false_ne_true, hcaps, hlit⟩
  | «open» value onInput onClose moved left noticed =>
      rw [Exchange.turned?, moved, left, advanceOpening_keyboard, Exchange.draws, noticed, advanceOpening,
        (advance_draws _ _).1, open_draws]
      exact Or.inr ⟨rfl, rfl, rfl⟩
  | close moved left noticed =>
      rw [Exchange.turned?, moved, left, advance_keyboard, Exchange.draws, noticed, (advance_draws _ _).1]
      exact Or.inr ⟨rfl, rfl, rfl⟩
  | rest moved silent kept =>
      obtain ⟨bound, hbound⟩ := kept
      rw [Exchange.turned?, moved, hbound, Exchange.draws, silent]
      exact Or.inr ⟨rfl, rfl, rfl⟩

/-! ### Runs -/

/-- What a run leaves of the lights: a key that was pressed is lit if caps lock was engaged then, so how often
caps lock was turned over since says whether the light still agrees with it. -/
structure Lit (layout : Layout) (past : List Exchange) (session : Session) : Prop where
  turned : Turned layout (turns layout past) session.keyboard
  length_eq : session.display.lit.length = layout.size
  last : ∀ earlier exchange since index, past = earlier ++ exchange :: since →
    exchange.turned? layout = some index → (∀ later ∈ since, later.turned? layout ≠ some index) →
      session.display.lit[index]? =
        some (if turns layout since % 2 = 0 then session.keyboard.capsLock else !session.keyboard.capsLock)
  never : ∀ index < layout.size, (∀ exchange ∈ past, exchange.turned? layout ≠ some index) →
    session.display.lit[index]? = some false
  alone : ∀ index < layout.size,
    (∀ exchange ∈ past, ∀ other, exchange.turned? layout = some other → other = index) →
      session.display.lit[index]? = some session.keyboard.capsLock

namespace Lit

variable {layout : Layout} {past : List Exchange} {session next : Session} {exchange : Exchange} {index : Nat}

/-- A press of a caps lock key: its light is right again, and each other light that was right is wrong. -/
theorem turn (h : Lit layout past session) (hturned : exchange.turned? layout = some index)
    (hnext : Turned layout (turns layout (past ++ [exchange])) next.keyboard)
    (hcaps : next.keyboard.capsLock = !session.keyboard.capsLock)
    (hlit : next.display.lit = session.display.lit.set index (!session.keyboard.capsLock)) :
    Lit layout (past ++ [exchange]) next where
  turned := hnext
  length_eq := by rw [hlit, List.length_set, h.length_eq]
  last := by
    intro earlier pressed since other hpast hpressed hsince
    rcases concat_eq_append_cons hpast with ⟨rfl, -, rfl⟩ | ⟨between, rfl, hbetween⟩
    · obtain rfl := Option.some.inj (hturned.symm.trans hpressed)
      have hindex : index < session.display.lit.length := h.length_eq ▸ Exchange.lt_of_turned? hturned
      rw [hlit, List.getElem?_set_self hindex, hcaps]
      rfl
    · have hother : index ≠ other := by
        rintro rfl
        exact hsince exchange (by simp) hturned
      have hlast := h.last earlier pressed between other hbetween hpressed
        fun later hlater => hsince later (List.mem_append_left _ hlater)
      rw [hlit, List.getElem?_set_ne hother, hlast, hcaps, turns_concat, ← Exchange.isSome_turned?, hturned,
        Option.isSome_some, if_pos rfl, Bool.not_not]
      by_cases heven : turns layout between % 2 = 0
      · rw [if_pos heven, if_neg (by omega)]
      · rw [if_neg heven, if_pos (by omega)]
  never := by
    intro other hother hnever
    have hne : index ≠ other := by
      rintro rfl
      exact hnever exchange (by simp) hturned
    rw [hlit, List.getElem?_set_ne hne]
    exact h.never other hother fun earlier hearlier => hnever earlier (List.mem_append_left _ hearlier)
  alone := by
    intro other hother halone
    obtain rfl := halone exchange (by simp) index hturned
    rw [hlit, List.getElem?_set_self (h.length_eq ▸ hother), hcaps]

/-- Anything else leaves caps lock and the lights as they are. -/
theorem pass (h : Lit layout past session) (hturned : exchange.turned? layout = none)
    (hnext : Turned layout (turns layout (past ++ [exchange])) next.keyboard)
    (hcaps : next.keyboard.capsLock = session.keyboard.capsLock)
    (hlit : next.display.lit = session.display.lit) : Lit layout (past ++ [exchange]) next where
  turned := hnext
  length_eq := by rw [hlit, h.length_eq]
  last := by
    intro earlier pressed since other hpast hpressed hsince
    rcases concat_eq_append_cons hpast with ⟨-, -, rfl⟩ | ⟨between, rfl, hbetween⟩
    · rw [hturned] at hpressed
      cases hpressed
    · rw [hlit, hcaps, turns_concat, ← Exchange.isSome_turned?, hturned, Option.isSome_none,
        if_neg Bool.false_ne_true, Nat.add_zero]
      exact h.last earlier pressed between other hbetween hpressed
        fun later hlater => hsince later (List.mem_append_left _ hlater)
  never := by
    intro other hother hnever
    rw [hlit]
    exact h.never other hother fun earlier hearlier => hnever earlier (List.mem_append_left _ hearlier)
  alone := by
    intro other hother halone
    rw [hlit, hcaps]
    exact h.alone other hother fun earlier hearlier => halone earlier (List.mem_append_left _ hearlier)

end Lit

theorem lit_start (layout : Layout) (forgetful : Bool) : Lit layout [] (start layout forgetful).1 := by
  have hdark : ∀ index < layout.size, (start layout forgetful).1.display.lit[index]? = some false := by
    intro index hindex
    show (layout.keys.map fun _ => false)[index]? = some false
    rw [List.getElem?_map, List.getElem?_eq_getElem hindex, Option.map_some]
  exact ⟨turned_start layout forgetful, List.length_map _, by simp, fun index hindex _ => hdark index hindex,
    fun index hindex _ => hdark index hindex⟩

theorem lit_pass {layout : Layout} (past : List Exchange) (session : Session) (request : Request)
    (single : request.isSingle = true) (h : Lit layout past session) :
    Lit layout (past ++ [session.exchange request]) (session.exchange request).after := by
  have hnext := turned_exchange past session request single h.turned
  rcases lights_exchange single h.turned.layout_eq with ⟨index, hturned, hcaps, hlit⟩ | ⟨hturned, hcaps, hlit⟩
  · exact h.turn hturned hnext hcaps hlit
  · exact h.pass hturned hnext hcaps hlit

/-- Along every run, the light of a caps lock key that was pressed shows the state of caps lock if and only if
caps lock was turned over an even number of times since the last press of this key, and no other key is lit.
So with one caps lock key at most, that key is lit exactly while caps lock is engaged, and no other ever is. -/
theorem lights_along_run (layout : Layout) (forgetful : Bool) (requests : List Request) :
    let session := (start layout forgetful).1
    let history := session.history requests
    let last := session.after requests
    let engaged := last.keyboard.capsLock
    (∀ earlier exchange since index, history = earlier ++ exchange :: since →
      exchange.turned? layout = some index → (∀ later ∈ since, later.turned? layout ≠ some index) →
        last.display.lit[index]? = some (if turns layout since % 2 = 0 then engaged else !engaged)) ∧
    (∀ index < layout.size, (∀ exchange ∈ history, exchange.turned? layout ≠ some index) →
      last.display.lit[index]? = some false) ∧
    ((∀ i j, (layout.key? i).any Key.isToggle → (layout.key? j).any Key.isToggle → i = j) →
      ∀ index key, layout.key? index = some key →
        last.display.lit[index]? = some (key.isToggle && engaged)) := by
  intro session history last engaged
  have h : Lit layout history last := history_induction (lit_start layout forgetful) lit_pass requests
  refine ⟨h.last, h.never, fun hsingle index key hkey => ?_⟩
  have hindex : index < layout.size := (List.getElem?_eq_some_iff.mp hkey).1
  cases htoggle : key.isToggle with
  | true =>
      refine h.alone index hindex fun exchange _ other hturned => ?_
      exact hsingle other index (Exchange.isToggle_of_turned? hturned) (by rw [hkey, Option.any_some, htoggle])
  | false =>
      refine h.never index hindex fun exchange _ hturned => ?_
      have hpressed := Exchange.isToggle_of_turned? hturned
      rw [hkey, Option.any_some, htoggle] at hpressed
      exact Bool.false_ne_true hpressed

/-- With two caps lock keys, the first stays lit when the second releases caps lock. -/
theorem light_of_other_toggle :
    ¬∀ (layout : Layout) (forgetful : Bool) (requests : List Request) (index : Nat),
      let session := (start layout forgetful).1
      (∃ exchange ∈ session.history requests, exchange.turned? layout = some index) →
        ((session.after requests).display.lit[index]? = some true ↔
          (session.after requests).keyboard.capsLock = true) := by
  intro hall
  have hlit := hall (Layout.ofLabels ["Caps Lock", "Caps Lock"]) false [.press 0, .press 1] 0
    ⟨_, List.mem_cons_self, by decide +kernel⟩
  exact absurd (hlit.mp (by decide +kernel)) (by decide +kernel)

end Session

end ScreenKeyboard.Keyboard
