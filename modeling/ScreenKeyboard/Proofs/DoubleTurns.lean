import ScreenKeyboard.Proofs.Displays
import ScreenKeyboard.Proofs.Typing

/-!
What two turns of caps lock bring back. Two turns restore what is shown, drawn and typed, with one exception: a
key whose label is a single capital shows it until caps lock is turned over for the first time, and ever after the
case of the state, so the first two turns leave it with the small letter (`restored_along_run`). Apart from these
keys, what a key shows and types depends on the layout and the state of caps lock alone.
-/

namespace ScreenKeyboard

namespace Legend

/-- Whether a label is a single upper-case ASCII letter. -/
def isCapital (label : String) : Bool :=
  match label.toList with
  | [c] => c.isUpper
  | _ => false

theorem isLetter_of_isUpper {c : Char} (h : c.isUpper = true) : isLetter c = true := by
  have hupper := of_decide_eq_true h
  exact Bool.or_eq_true_iff.mpr
    (Or.inr (Bool.and_eq_true_iff.mpr ⟨decide_eq_true hupper.1, decide_eq_true hupper.2⟩))

theorem toLower_eq_self_iff (c : Char) : c.toLower = c ↔ c.isUpper = false := by
  unfold Char.toLower Char.isUpper
  split
  · next hupper =>
      have hne : c.val + ('a'.val - 'A'.val) ≠ c.val := by
        intro heq
        simp at heq
      exact iff_of_false (fun heq => hne (congrArg Char.val heq)) fun h => of_decide_eq_false h hupper
  · next hupper => exact iff_of_true rfl (decide_eq_false hupper)

theorem afterTurns_congr (label : String) {m n : Nat} (hparity : m % 2 = n % 2) (hzero : m = 0 ↔ n = 0) :
    afterTurns label m = afterTurns label n := by
  simp only [afterTurns, hparity, hzero]

/-- When caps lock was turned over and back, a legend is the label again, unless that is a capital. -/
theorem afterTurns_even_iff (label : String) {n : Nat} (hn : n ≠ 0) (heven : n % 2 = 0) :
    afterTurns label n = label ↔ isCapital label = false := by
  have hodd : ¬n % 2 = 1 := by omega
  rcases hlabel : label.toList with _ | ⟨c, _ | ⟨d, rest⟩⟩
  · simp only [afterTurns, isCapital, hlabel]
  · simp only [afterTurns, isCapital, hlabel, if_neg hn, if_neg hodd]
    by_cases hletter : isLetter c = true
    · rw [if_pos hletter, ← toLower_eq_self_iff, ← String.toList_inj, hlabel, String.toList_singleton,
        List.singleton_inj]
    · have hupper : c.isUpper = false := Bool.eq_false_iff.mpr fun h => hletter (isLetter_of_isUpper h)
      rw [if_neg hletter]
      cases Shift.partner? c <;> exact iff_of_true rfl hupper
  · simp only [afterTurns, isCapital, hlabel]

end Legend

/-- Whether a key shows a single upper-case ASCII letter before caps lock was ever pressed. -/
def Key.isCapital (key : Key) : Bool :=
  key.icon.isNone && Legend.isCapital key.label

/-- What is drawn on a key goes by the state of caps lock alone, unless the key is a capital: then it also
matters whether caps lock was ever turned over. -/
theorem Key.drawnAfter_eq_iff (key : Key) (face : Key → String) {m n : Nat} (hparity : m % 2 = n % 2) :
    key.drawnAfter face m = key.drawnAfter face n ↔ (m = 0 ↔ n = 0) ∨ key.isCapital = false := by
  cases hicon : key.icon with
  | some icon => simp [drawnAfter, isCapital, hicon]
  | none =>
      simp only [drawnAfter, isCapital, hicon, Option.isNone_none, Bool.true_and]
      by_cases hzero : m = 0 ↔ n = 0
      · exact iff_of_true (Legend.afterTurns_congr key.label hparity hzero) (Or.inl hzero)
      · rw [or_iff_right hzero]
        -- one of the two is zero, so the other is even
        by_cases hm : m = 0
        · have hn : n ≠ 0 := fun hn => hzero (iff_of_true hm hn)
          rw [hm, Legend.afterTurns_zero, eq_comm]
          exact Legend.afterTurns_even_iff key.label hn (by omega)
        · have hn : n = 0 := by_contra fun hn => hzero (iff_of_false hm hn)
          rw [hn, Legend.afterTurns_zero]
          exact Legend.afterTurns_even_iff key.label hm (by omega)

theorem Key.legendAfter_eq_iff (key : Key) {m n : Nat} (hparity : m % 2 = n % 2) :
    key.legendAfter m = key.legendAfter n ↔ (m = 0 ↔ n = 0) ∨ key.isCapital = false := by
  rw [legendAfter_eq_drawnAfter, legendAfter_eq_drawnAfter, key.drawnAfter_eq_iff Key.legend hparity]

/-- A key types what it shows, so it types the same whenever it shows the same. -/
theorem Key.outcomeAfter_congr (key : Key) {m n : Nat} (h : key.legendAfter m = key.legendAfter n) :
    key.outcomeAfter m = key.outcomeAfter n := by
  have htyped : (if key.icon.isSome then key.label else Legend.afterTurns key.label m) =
      if key.icon.isSome then key.label else Legend.afterTurns key.label n := by
    cases hicon : key.icon with
    | some icon => rfl
    | none =>
        simp only [legendAfter, hicon] at h
        exact h
  cases hrole : key.role <;> simp only [outcomeAfter, hrole, htyped]

namespace Keyboard

section Two

variable {layout : Layout} {m n : Nat} {first second : Keyboard} {index : Nat} {key : Key}

/-- Two keyboards with caps lock in the same state show the same on a key, unless the key is a capital and caps
lock was never turned over in just one of them. -/
theorem Turned.legend?_eq_iff (hfirst : Turned layout m first) (hsecond : Turned layout n second)
    (hparity : m % 2 = n % 2) (found : layout.key? index = some key) :
    first.legend? index = second.legend? index ↔ (m = 0 ↔ n = 0) ∨ key.isCapital = false := by
  rw [hfirst.legend?_eq, hsecond.legend?_eq, found, Option.map_some, Option.map_some, Option.some_inj]
  exact key.legendAfter_eq_iff hparity

theorem Mirrors.texts_eq_iff {face : Key → String} {display other : Display}
    (hface : ∀ key : Key, key.icon = none → face key = key.label)
    (hfirst : Mirrors face layout m first display) (hsecond : Mirrors face layout n second other)
    (hparity : m % 2 = n % 2) (found : layout.key? index = some key) :
    display.texts[index]? = other.texts[index]? ↔ (m = 0 ↔ n = 0) ∨ key.isCapital = false := by
  have hkey : layout.keys[index]? = some key := found
  rw [hfirst.texts_eq hface, hsecond.texts_eq hface, List.getElem?_map, List.getElem?_map, hkey, Option.map_some,
    Option.map_some, Option.some_inj]
  exact key.drawnAfter_eq_iff face hparity

theorem Turned.parity_eq (hfirst : Turned layout m first) (hsecond : Turned layout n second)
    (hcaps : first.capsLock = second.capsLock) : m % 2 = n % 2 := by
  rw [hfirst.capsLock_eq, hsecond.capsLock_eq, decide_eq_decide] at hcaps
  omega

end Two

namespace Session

/-- A press by index is a press of the key at that index, if the layout has it. -/
theorem pressed?_press {layout : Layout} {n : Nat} {session : Session} (h : Turned layout n session.keyboard)
    (index : Nat) : (session.exchange (.press index)).pressed? layout = layout.key? index := by
  cases found : layout.key? index with
  | none =>
      have hnamed : (session.exchange (.press index)).request.index? layout = some index := rfl
      rw [Exchange.pressed?, hnamed]
      cases (session.exchange (.press index)).move with
      | press outcome => exact found
      | _ => rfl
  | some key =>
      have hanswer := answer_press h found
      rw [Exchange.pressed?, Exchange.move, hanswer]
      exact found

theorem turns_press {layout : Layout} {forgetful : Bool} {requests : List Request} {index : Nat}
    (htoggle : (layout.key? index).any Key.isToggle = true) :
    turns layout ((start layout forgetful).1.history (requests ++ [.press index])) =
      turns layout ((start layout forgetful).1.history requests) + 1 := by
  rw [history_concat _ _ rfl, turns_concat, pressed?_press (turned_after layout forgetful requests), htoggle,
    if_pos rfl]

/-- Along every run, two presses of caps lock keys bring back the state of caps lock and what is shown and drawn
on a key, if and only if caps lock was turned over before or the key is no capital. So for two runs on one
layout that leave caps lock in the same state, a key shows the same after either, if and only if caps lock was
turned over in both or in neither or the key is no capital; and then it types the same. -/
theorem restored_along_run (layout : Layout) (forgetful : Bool) (requests : List Request) :
    let session := (start layout forgetful).1.after requests
    let n := turns layout ((start layout forgetful).1.history requests)
    (∀ i j, (layout.key? i).any Key.isToggle → (layout.key? j).any Key.isToggle →
      let twice := requests ++ [.press i, .press j]
      let later := (start layout forgetful).1.after twice
      later.keyboard.capsLock = session.keyboard.capsLock ∧
      ∀ index key, layout.key? index = some key →
        (later.keyboard.legend? index = session.keyboard.legend? index ↔ n ≠ 0 ∨ key.isCapital = false) ∧
        ∀ face : Key → String, (∀ key : Key, key.icon = none → face key = key.label) →
          ((displayAfter face layout forgetful twice).texts[index]? =
            (displayAfter face layout forgetful requests).texts[index]? ↔ n ≠ 0 ∨ key.isCapital = false)) ∧
    ∀ (forgetful' : Bool) (others : List Request),
      let other := (start layout forgetful').1.after others
      let m := turns layout ((start layout forgetful').1.history others)
      other.keyboard.capsLock = session.keyboard.capsLock → ∀ index key, layout.key? index = some key →
        (other.keyboard.legend? index = session.keyboard.legend? index ↔
          (m = 0 ↔ n = 0) ∨ key.isCapital = false) ∧
        ((m = 0 ↔ n = 0) ∨ key.isCapital = false →
          (other.exchange (.press index)).answer = (session.exchange (.press index)).answer) := by
  intro session n
  have hturned : Turned layout n session.keyboard := turned_after layout forgetful requests
  constructor
  · intro i j hi hj twice later
    have hturns : turns layout ((start layout forgetful).1.history twice) = n + 2 := by
      have happend : twice = (requests ++ [.press i]) ++ [.press j] :=
        (List.append_assoc requests [.press i] [.press j]).symm
      rw [happend, turns_press hj, turns_press hi]
    have hlater : Turned layout (n + 2) later.keyboard := hturns ▸ turned_after layout forgetful twice
    have hparity : (n + 2) % 2 = n % 2 := Nat.add_mod_right n 2
    have hzero : (n + 2 = 0 ↔ n = 0) ↔ n ≠ 0 := by omega
    refine ⟨?_, fun index key found => ⟨?_, fun face hface => ?_⟩⟩
    · rw [hlater.capsLock_eq, hturned.capsLock_eq, hparity]
    · rw [hlater.legend?_eq_iff hturned hparity found, hzero]
    · have hdrawn := mirrors_displayAfter face layout forgetful twice
      rw [hturns] at hdrawn
      rw [hdrawn.texts_eq_iff hface (mirrors_displayAfter face layout forgetful requests) hparity found, hzero]
  · intro forgetful' others other m hcaps index key found
    have hother : Turned layout m other.keyboard := turned_after layout forgetful' others
    have hparity := hother.parity_eq hturned hcaps
    refine ⟨hother.legend?_eq_iff hturned hparity found, fun hsame => ?_⟩
    have hlegend : key.legendAfter m = key.legendAfter n := (key.legendAfter_eq_iff hparity).mpr hsame
    rw [answer_press hother found, answer_press hturned found, key.outcomeAfter_congr hlegend]

/-- Two turns leave a capital with the small letter. -/
theorem capital_after_two_turns :
    ¬∀ (layout : Layout) (forgetful : Bool) (requests : List Request) (i j index : Nat),
      (layout.key? i).any Key.isToggle → (layout.key? j).any Key.isToggle →
        ((start layout forgetful).1.after (requests ++ [.press i, .press j])).keyboard.legend? index =
          ((start layout forgetful).1.after requests).keyboard.legend? index := by
  intro hall
  have hsame := hall (Layout.ofLabels ["Caps Lock", "A"]) false [] 0 0 1 (by decide +kernel) (by decide +kernel)
  exact absurd hsame (by decide +kernel)

end Session

end Keyboard

end ScreenKeyboard
