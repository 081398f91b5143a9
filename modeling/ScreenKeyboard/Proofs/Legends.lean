import ScreenKeyboard.Proofs.History

/-!
What the keys show along a run. A legend is rewritten from what it shows at that moment, yet after `n`
turns of caps lock it is a function of the key's label and `n` alone (`legends_after_run`): the first
turn puts a letter into the case of the state for good, and a paired character is its own partner's
partner.
-/

namespace ScreenKeyboard

namespace Shift

theorem partner?_mem {c d : Char} (h : partner? c = some d) :
    (c, d) ∈ shiftPairs ∨ (d, c) ∈ shiftPairs := by
  obtain ⟨⟨base, high⟩, hmem, hpair⟩ := List.exists_of_findSome?_eq_some h
  dsimp only at hpair
  split_ifs at hpair with hbase hhigh
  · cases hpair
    exact Or.inl (hbase ▸ hmem)
  · cases hpair
    exact Or.inr (hhigh ▸ hmem)

theorem partner?_of_mem : ∀ pair ∈ shiftPairs,
    partner? pair.1 = some pair.2 ∧ partner? pair.2 = some pair.1 := by
  decide

theorem partner?_partner? {c d : Char} (h : partner? c = some d) : partner? d = some c := by
  rcases partner?_mem h with hmem | hmem
  · exact (partner?_of_mem _ hmem).2
  · exact (partner?_of_mem _ hmem).1

theorem isSome_partner?_iff (c : Char) :
    (partner? c).isSome = true ↔ ∃ pair ∈ shiftPairs, c = pair.1 ∨ c = pair.2 := by
  rw [Option.isSome_iff_exists]
  constructor
  · rintro ⟨partner, hpartner⟩
    rcases partner?_mem hpartner with hmem | hmem
    · exact ⟨_, hmem, Or.inl rfl⟩
    · exact ⟨_, hmem, Or.inr rfl⟩
  · rintro ⟨pair, hmem, rfl | rfl⟩
    · exact ⟨_, (partner?_of_mem pair hmem).1⟩
    · exact ⟨_, (partner?_of_mem pair hmem).2⟩

theorem not_isLetter_of_mem : ∀ pair ∈ shiftPairs,
    Legend.isLetter pair.1 = false ∧ Legend.isLetter pair.2 = false := by
  decide

end Shift

namespace Legend

theorem not_isLetter_of_partner? {c d : Char} (h : Shift.partner? c = some d) : isLetter d = false := by
  rcases Shift.partner?_mem h with hmem | hmem
  · exact (Shift.not_isLetter_of_mem _ hmem).2
  · exact (Shift.not_isLetter_of_mem _ hmem).1

theorem toNat_lt_of_isLetter {c : Char} (h : isLetter c = true) : c.toNat < 128 := by
  simp only [isLetter, Bool.or_eq_true, Bool.and_eq_true, decide_eq_true_eq, Char.le_def,
    UInt32.le_iff_toNat_le, Char.toNat_val] at h
  have hz : 'z'.toNat = 122 := rfl
  have hZ : 'Z'.toNat = 90 := rfl
  omega

theorem letterCase_ascii : ∀ n < 128, isLetter (Char.ofNat n) = true → ∀ engaged,
    isLetter (letterCase engaged (Char.ofNat n)) = true ∧
      ∀ later, letterCase later (letterCase engaged (Char.ofNat n)) = letterCase later (Char.ofNat n) := by
  decide +kernel

theorem isLetter_letterCase {c : Char} (h : isLetter c = true) (engaged : Bool) :
    isLetter (letterCase engaged c) = true := by
  have hascii := letterCase_ascii c.toNat (toNat_lt_of_isLetter h)
  rw [Char.ofNat_toNat] at hascii
  exact (hascii h engaged).1

/-- The case of a letter does not depend on the case that it had. -/
theorem letterCase_letterCase {c : Char} (h : isLetter c = true) (later engaged : Bool) :
    letterCase later (letterCase engaged c) = letterCase later c := by
  have hascii := letterCase_ascii c.toNat (toNat_lt_of_isLetter h)
  rw [Char.ofNat_toNat] at hascii
  exact (hascii h engaged).2 later

/-- Whether turning caps lock rewrites a legend that began as `label`: a single ASCII letter, or a single
character of a shift pair. -/
def hasCaps (label : String) : Bool :=
  match label.toList with
  | [c] => isLetter c || (Shift.partner? c).isSome
  | _ => false

/-- What a legend shows after `n` turns of caps lock if it began as `label`. -/
def afterTurns (label : String) (n : Nat) : String :=
  match label.toList with
  | [c] =>
    if n = 0 then label
    else if isLetter c then String.singleton (if n % 2 = 1 then c.toUpper else c.toLower)
    else
      match Shift.partner? c with
      | some partner => if n % 2 = 1 then String.singleton partner else label
      | none => label
  | _ => label

theorem hasCaps_cases {label : String} (h : hasCaps label = true) :
    ∃ c, label = String.singleton c ∧ (isLetter c = true ∨ ∃ partner, Shift.partner? c = some partner) := by
  unfold hasCaps at h
  split at h
  · next c hlabel =>
      refine ⟨c, ?_, ?_⟩
      · rw [← String.toList_inj, hlabel, String.toList_singleton]
      · rwa [Bool.or_eq_true, Option.isSome_iff_exists] at h
  · exact absurd h Bool.false_ne_true

theorem hasCaps_iff (label : String) :
    hasCaps label = true ↔ ∃ c, label.toList = [c] ∧
      (isLetter c = true ∨ ∃ pair ∈ shiftPairs, c = pair.1 ∨ c = pair.2) := by
  rcases hlabel : label.toList with _ | ⟨c, _ | ⟨d, rest⟩⟩
  · simp [hasCaps, hlabel]
  · simp [hasCaps, hlabel, Shift.isSome_partner?_iff]
  · simp [hasCaps, hlabel]

@[simp] theorem afterTurns_zero (label : String) : afterTurns label 0 = label := by
  unfold afterTurns
  split <;> simp

theorem afterTurns_of_not_hasCaps {label : String} (h : hasCaps label = false) (n : Nat) :
    afterTurns label n = label := by
  unfold hasCaps at h
  unfold afterTurns
  split at h
  · simp only [Bool.or_eq_false_iff, Option.isSome_eq_false_iff, Option.isNone_iff_eq_none] at h
    simp only [h.1, h.2]
    split <;> rfl
  · rfl

theorem recase?_of_not_hasCaps {label : String} (h : hasCaps label = false) (engaged : Bool) :
    recase? engaged label = none := by
  unfold recase?
  split
  · next c hlabel =>
      unfold hasCaps at h
      rw [hlabel] at h
      simp only [Bool.or_eq_false_iff, Option.isSome_eq_false_iff, Option.isNone_iff_eq_none] at h
      simp only [recaseChar?, h.1, h.2, Bool.false_eq_true, if_false, Option.map_none]
  · rfl

theorem recase?_letter {c : Char} (h : isLetter c = true) (engaged : Bool) :
    recase? engaged (String.singleton c) = some (String.singleton (letterCase engaged c)) := by
  simp only [recase?, String.toList_singleton, recaseChar?, h, if_true, Option.map_some]

theorem recase?_paired {c partner : Char} (h : Shift.partner? c = some partner) (engaged : Bool) :
    recase? engaged (String.singleton c) = some (String.singleton partner) := by
  have hletter : isLetter c = false := not_isLetter_of_partner? (Shift.partner?_partner? h)
  simp only [recase?, String.toList_singleton, recaseChar?, hletter, h, Bool.false_eq_true, if_false,
    Option.map_some]

theorem afterTurns_letter {c : Char} (h : isLetter c = true) (n : Nat) :
    afterTurns (String.singleton c) (n + 1) =
      String.singleton (letterCase (decide ((n + 1) % 2 = 1)) c) := by
  simp only [afterTurns, String.toList_singleton, h, if_true, letterCase, decide_eq_true_eq]
  rw [if_neg (Nat.succ_ne_zero n)]

theorem afterTurns_paired {c partner : Char} (h : Shift.partner? c = some partner) (n : Nat) :
    afterTurns (String.singleton c) n = String.singleton (if n % 2 = 1 then partner else c) := by
  have hletter : isLetter c = false := not_isLetter_of_partner? (Shift.partner?_partner? h)
  simp only [afterTurns, String.toList_singleton, hletter, h, Bool.false_eq_true, if_false]
  split_ifs with hzero hodd hodd
  · omega
  · rfl
  · rfl
  · rfl

/-- A turn of caps lock takes what a legend shows after `n` turns to what it shows after one more. -/
theorem recase?_afterTurns (label : String) (n : Nat) :
    recase? (decide ((n + 1) % 2 = 1)) (afterTurns label n) =
      if hasCaps label then some (afterTurns label (n + 1)) else none := by
  cases hcaps : hasCaps label with
  | false => rw [afterTurns_of_not_hasCaps hcaps, recase?_of_not_hasCaps hcaps, if_neg Bool.false_ne_true]
  | true =>
      rw [if_pos rfl]
      obtain ⟨c, rfl, hletter | ⟨partner, hpartner⟩⟩ := hasCaps_cases hcaps
      · rw [afterTurns_letter hletter]
        -- before the first turn a letter has the case of its label, later that of the state
        cases n with
        | zero => rw [afterTurns_zero, recase?_letter hletter]
        | succ n =>
            rw [afterTurns_letter hletter, recase?_letter (isLetter_letterCase hletter _),
              letterCase_letterCase hletter]
      · rw [afterTurns_paired hpartner, afterTurns_paired hpartner]
        by_cases hodd : n % 2 = 1
        · rw [if_pos hodd, if_neg (by omega), recase?_paired (Shift.partner?_partner? hpartner)]
        · rw [if_neg hodd, if_pos (by omega), recase?_paired hpartner]

end Legend

/-- What the key shows after `n` turns of caps lock: its icon, or its label in the form it then has. -/
def Key.legendAfter (key : Key) (n : Nat) : String :=
  match key.icon with
  | some icon => icon.name
  | none => Legend.afterTurns key.label n

namespace Key

theorem legendAfter_zero (key : Key) : key.legendAfter 0 = key.legend := by
  cases hicon : key.icon <;> simp [legendAfter, legend, hicon]

theorem legendAfter_succ (key : Key) (n : Nat) :
    key.legendAfter (n + 1) =
      (if key.icon.isSome then none
        else Legend.recase? (decide ((n + 1) % 2 = 1)) (key.legendAfter n)).getD (key.legendAfter n) := by
  cases hicon : key.icon with
  | some icon => simp [legendAfter, hicon]
  | none =>
      simp only [legendAfter, hicon, Option.isSome_none, Bool.false_eq_true, if_false,
        Legend.recase?_afterTurns]
      cases hcaps : Legend.hasCaps key.label with
      | true => rfl
      | false => simp [Legend.afterTurns_of_not_hasCaps hcaps]

end Key

namespace Keyboard

/-- The keyboard of a layout after `n` turns of caps lock. -/
structure Turned (layout : Layout) (n : Nat) (keyboard : Keyboard) : Prop where
  layout_eq : keyboard.layout = layout
  capsLock_eq : keyboard.capsLock = decide (n % 2 = 1)
  legends_eq : keyboard.legends = layout.keys.map fun key => key.legendAfter n

namespace Turned

variable {layout : Layout} {n : Nat} {keyboard : Keyboard}

theorem ofLayout (layout : Layout) (forgetful : Bool) : Turned layout 0 (ofLayout layout forgetful) where
  layout_eq := rfl
  capsLock_eq := rfl
  legends_eq := List.map_congr_left fun key _ => key.legendAfter_zero.symm

theorem congr {other : Keyboard} (h : Turned layout n keyboard) (hlayout : other.layout = keyboard.layout)
    (hcaps : other.capsLock = keyboard.capsLock) (hlegends : other.legends = keyboard.legends) :
    Turned layout n other where
  layout_eq := hlayout.trans h.layout_eq
  capsLock_eq := hcaps.trans h.capsLock_eq
  legends_eq := hlegends.trans h.legends_eq

theorem not_capsLock (h : Turned layout n keyboard) :
    (!keyboard.capsLock) = decide ((n + 1) % 2 = 1) := by
  rw [h.capsLock_eq, ← decide_not]
  apply decide_eq_decide.mpr
  omega

theorem turnCapsLock (h : Turned layout n keyboard) (index : Nat) :
    Turned layout (n + 1) (keyboard.turnCapsLock index).1 where
  layout_eq := h.layout_eq
  capsLock_eq := h.not_capsLock
  legends_eq := by
    show List.zipWith _ keyboard.legends
      (recased (!keyboard.capsLock) keyboard.layout.keys keyboard.legends) = _
    rw [h.not_capsLock, h.layout_eq, h.legends_eq, recased, List.zipWith_map_right, List.zipWith_self,
      List.zipWith_map, List.zipWith_self]
    exact List.map_congr_left fun key _ => (key.legendAfter_succ n).symm

/-- Only caps lock keys turn caps lock over, whatever else a key does. -/
theorem actuate (h : Turned layout n keyboard) (index : Nat) (key : Key) :
    Turned layout (if key.isToggle then n + 1 else n) (keyboard.actuate index key).2.1 := by
  cases hrole : key.role with
  | capsLock =>
      simp only [Keyboard.actuate, hrole, Key.isToggle, decide_true, if_true]
      exact (h.congr rfl rfl rfl : Turned layout n (keyboard.emit key.label).1).turnCapsLock index
  | _ =>
      simp only [Keyboard.actuate, hrole, Key.isToggle, reduceCtorEq, decide_false, if_false]
      exact h.congr rfl rfl rfl

theorem legend?_eq (h : Turned layout n keyboard) (index : Nat) :
    keyboard.legend? index = (layout.key? index).map fun key => key.legendAfter n := by
  rw [legend?, h.legends_eq, List.getElem?_map, Layout.key?]

end Turned

namespace Session

theorem turned_start (layout : Layout) (forgetful : Bool) :
    Turned layout (turns layout []) (start layout forgetful).1.keyboard :=
  Turned.ofLayout layout forgetful

theorem turned_exchange {layout : Layout} (past : List Exchange) (session : Session) (request : Request)
    (single : request.isSingle = true) (h : Turned layout (turns layout past) session.keyboard) :
    Turned layout (turns layout (past ++ [session.exchange request]))
      (session.exchange request).after.keyboard := by
  rw [turns_concat]
  cases course_exchange session single with
  | press index key named found moved left noticed =>
      rw [Exchange.pressed?_of_move moved h.layout_eq named found, left, advance_keyboard, Option.any_some]
      have hturned := h.actuate index key
      split_ifs at hturned ⊢ with htoggle <;> exact hturned
  | «open» value onInput onClose moved left noticed =>
      simp only [Exchange.pressed?, moved]
      rw [left, advanceOpening_keyboard]
      exact h.congr rfl rfl rfl
  | close moved left noticed =>
      simp only [Exchange.pressed?, moved]
      rw [left, advance_keyboard]
      exact h.congr rfl rfl rfl
  | rest moved silent kept =>
      obtain ⟨bound, hbound⟩ := kept
      simp only [Exchange.pressed?, moved]
      rw [hbound]
      exact h.congr rfl rfl rfl

theorem turned_after (layout : Layout) (forgetful : Bool) (requests : List Request) :
    Turned layout (turns layout ((start layout forgetful).1.history requests))
      ((start layout forgetful).1.after requests).keyboard :=
  history_induction (P := fun past session => Turned layout (turns layout past) session.keyboard)
    (turned_start layout forgetful) turned_exchange requests

/-- Along every run, what a key shows and whether caps lock is engaged follow from the layout and from how
often caps lock was turned over. -/
theorem legends_after_run (layout : Layout) (forgetful : Bool) (requests : List Request) :
    let keyboard := ((start layout forgetful).1.after requests).keyboard
    let n := turns layout ((start layout forgetful).1.history requests)
    (keyboard.capsLock = true ↔ n % 2 = 1) ∧
      ∀ index, (keyboard.legend? index = none ↔ layout.size ≤ index) ∧
        keyboard.legend? index = (layout.key? index).map fun key => key.legendAfter n := by
  intro keyboard n
  have h : Turned layout n keyboard :=
    history_induction (P := fun past session => Turned layout (turns layout past) session.keyboard)
      (turned_start layout forgetful) turned_exchange requests
  refine ⟨?_, fun index => ⟨?_, h.legend?_eq index⟩⟩
  · rw [h.capsLock_eq, decide_eq_true_iff]
  · rw [h.legend?_eq, Option.map_eq_none_iff, Layout.key?, List.getElem?_eq_none_iff, Layout.size]

end Session

end Keyboard

end ScreenKeyboard
