import Mathlib.Data.List.Basic
import ScreenKeyboard.Proofs.Lights
import ScreenKeyboard.Proofs.Listeners

/-!
What a press of a caps lock key redraws. Which keys are rewritten is decided from what they show just then, and
earlier turns have rewritten that; still it is the same keys at every turn of a run, those whose label has a caps
form (`Layout.redrawn`). `redrawing_along_run` lists all that is noticed of such a press, in order.
-/

namespace ScreenKeyboard

/-- Whether a turn of caps lock rewrites what the key shows. -/
def Key.hasCaps (key : Key) : Bool :=
  key.icon.isNone && Legend.hasCaps key.label

/-- The indices of the keys that a turn of caps lock rewrites. -/
def Layout.redrawn (layout : Layout) : List Nat :=
  (List.range layout.size).filter fun index => (layout.key? index).any Key.hasCaps

theorem Layout.redrawn_ascending (layout : Layout) : layout.redrawn.Pairwise (· < ·) :=
  List.pairwise_lt_range.filter _

theorem Layout.mem_redrawn {layout : Layout} {index : Nat} :
    index ∈ layout.redrawn ↔ (layout.key? index).any Key.hasCaps = true := by
  rw [redrawn, List.mem_filter, List.mem_range]
  refine and_iff_right_of_imp fun hcaps => ?_
  by_contra hsize
  rw [key?, List.getElem?_eq_none (Nat.le_of_not_lt hsize)] at hcaps
  cases hcaps

/-- However often caps lock was turned over, the next turn rewrites what a key shows if the key's label has a
caps form. -/
theorem Key.recased_legendAfter (key : Key) (n : Nat) :
    (if key.icon.isSome then none else Legend.recase? (decide ((n + 1) % 2 = 1)) (key.legendAfter n)) =
      if key.hasCaps then some (key.legendAfter (n + 1)) else none := by
  cases hicon : key.icon with
  | some icon => simp [hasCaps, hicon]
  | none =>
      simp only [hasCaps, legendAfter, hicon, Option.isSome_none, Option.isNone_none, Bool.false_eq_true, if_false,
        Bool.true_and]
      exact Legend.recase?_afterTurns key.label n

theorem Key.legendAfter_of_not_hasCaps {key : Key} (h : key.hasCaps = false) (m n : Nat) :
    key.legendAfter m = key.legendAfter n := by
  cases hicon : key.icon with
  | some icon => simp only [legendAfter, hicon]
  | none =>
      have hlabel : Legend.hasCaps key.label = false := by
        simpa [hasCaps, hicon] using h
      simp only [legendAfter, hicon, Legend.afterTurns_of_not_hasCaps hlabel]

namespace Keyboard

theorem rewrites_map (change : Key → Option String) (keys : List Key) (start : Nat) :
    rewrites start (keys.map change) =
      (List.range keys.length).filterMap fun index =>
        (keys[index]?.bind change).map (Draw.rewrite (start + index)) := by
  induction keys generalizing start with
  | nil => rfl
  | cons key rest ih =>
      have hrest : rewrites (start + 1) (rest.map change) =
          ((List.range rest.length).map Nat.succ).filterMap fun index =>
            ((key :: rest)[index]?.bind change).map (Draw.rewrite (start + index)) := by
        rw [ih, List.filterMap_map]
        refine List.filterMap_congr fun index _ => ?_
        simp only [Function.comp_apply, Nat.succ_eq_add_one, List.getElem?_cons_succ]
        rw [show start + 1 + index = start + (index + 1) by omega]
      rw [List.length_cons, List.range_succ_eq_map, List.filterMap_cons, ← hrest, List.map_cons]
      cases hchange : change key <;> simp [rewrites, hchange]

section Turn

variable {layout : Layout} {n : Nat} {keyboard : Keyboard}

theorem Turned.recased_eq (h : Turned layout n keyboard) :
    recased (!keyboard.capsLock) keyboard.layout.keys keyboard.legends =
      layout.keys.map fun key => if key.hasCaps then some (key.legendAfter (n + 1)) else none := by
  rw [h.not_capsLock, h.layout_eq, h.legends_eq, recased, List.zipWith_map_right, List.zipWith_self]
  exact List.map_congr_left fun key _ => key.recased_legendAfter n

/-- The next turn redraws the keys with a caps form, in the order of their indices, with what they show after it. -/
theorem Turned.rewrites_eq (h : Turned layout n keyboard) {shown : Nat → String}
    (hshown : ∀ index key, layout.key? index = some key → shown index = key.legendAfter (n + 1)) :
    rewrites 0 (recased (!keyboard.capsLock) keyboard.layout.keys keyboard.legends) =
      layout.redrawn.map fun index => Draw.rewrite index (shown index) := by
  rw [h.recased_eq, rewrites_map, Layout.redrawn, ← List.filterMap_eq_map', List.filterMap_filter]
  refine List.filterMap_congr fun index hindex => ?_
  have hlt : index < layout.keys.length := List.mem_range.mp hindex
  have hkey : layout.key? index = some layout.keys[index] := List.getElem?_eq_getElem hlt
  rw [hshown index _ hkey, hkey, List.getElem?_eq_getElem hlt, Option.bind_some, Option.any_some, Nat.zero_add]
  cases layout.keys[index].hasCaps <;> rfl

/-- What a press of a caps lock key does: it tells the input listener, redraws legends and lights the key. -/
theorem Turned.pressing_capsLock (h : Turned layout n keyboard) {index : Nat} {key : Key}
    (hrole : key.role = .capsLock) {shown : Nat → String}
    (hshown : ∀ index key, layout.key? index = some key → shown index = key.legendAfter (n + 1)) :
    (keyboard.pressing index key).2 =
      [Event.log (.pressed index .capsLock)] ++ ((keyboard.onInput.map (Event.input · key.label)).toList ++
        ((layout.redrawn.map fun other => Event.draw (.rewrite other (shown other))) ++
          [Event.draw (.light index (!keyboard.capsLock)), Event.log (.capsLock (!keyboard.capsLock))])) := by
  have hcommands : (layout.redrawn.map fun other => Event.draw (.rewrite other (shown other))) =
      (rewrites 0 (recased (!keyboard.capsLock) keyboard.layout.keys keyboard.legends)).map Event.draw := by
    rw [h.rewrites_eq hshown, List.map_map]
    rfl
  rw [pressing, Keyboard.actuate, hrole, hcommands]
  rfl

end Turn

namespace Session

theorem observeAll_append (session : Session) (first second : List Event) :
    (session.observeAll (first ++ second)).2 =
      (session.observeAll first).2 ++ ((session.observeAll first).1.observeAll second).2 := by
  induction first generalizing session with
  | nil => rfl
  | cons event rest ih =>
      simp only [List.cons_append, observeAll, ih]

theorem observeAll_commands {α : Type} (session : Session) (command : α → Draw) (targets : List α) :
    (session.observeAll (targets.map fun target => .draw (command target))).2 =
      targets.map fun target => .draw (command target) := by
  induction targets generalizing session with
  | nil => rfl
  | cons target rest ih => exact congrArg (Notice.draw (command target) :: ·) (ih _)

end Session

/-- What is noticed of a press of a caps lock key. -/
theorem Turned.notices_capsLock {layout : Layout} {n : Nat} {session : Session}
    (h : Turned layout n session.keyboard) {index : Nat} {key : Key} (hrole : key.role = .capsLock)
    {shown : Nat → String}
    (hshown : ∀ other key, layout.key? other = some key → shown other = key.legendAfter (n + 1)) :
    (session.advance (session.keyboard.pressing index key)).2 =
      [Notice.log (.pressed index .capsLock)] ++ (session.keyboard.onInput.map (session.hearing key.label)).toList ++
        (layout.redrawn.map fun other => Notice.draw (.rewrite other (shown other))) ++
        [Notice.draw (.light index (!session.keyboard.capsLock)),
          Notice.log (.capsLock (!session.keyboard.capsLock))] := by
  rw [Session.advance, h.pressing_capsLock hrole hshown, Session.observeAll_append, Session.observeAll_append,
    Session.observeAll_append, Session.observeAll_commands, (Session.observeAll_input _ _ _).1]
  simp only [List.append_assoc]
  rfl

/-- The course of an exchange that turned caps lock over. -/
theorem Exchange.Course.of_turned {layout : Layout} {exchange : Exchange} {index : Nat} (course : exchange.Course)
    (hlayout : exchange.before.keyboard.layout = layout) (hturned : exchange.turned? layout = some index) :
    ∃ key, layout.key? index = some key ∧ key.role = .capsLock ∧
      exchange.after = (exchange.before.advance (exchange.before.keyboard.pressing index key)).1 ∧
      exchange.notices = (exchange.before.advance (exchange.before.keyboard.pressing index key)).2 := by
  cases course with
  | press pressed key named found moved left noticed =>
      rw [turned?_of_press moved hlayout named found] at hturned
      split_ifs at hturned with htoggle
      obtain rfl := Option.some.inj hturned
      exact ⟨key, hlayout ▸ found, of_decide_eq_true htoggle, left, noticed⟩
  | «open» value onInput onClose moved => simp [turned?, moved] at hturned
  | close moved => simp [turned?, moved] at hturned
  | rest moved => simp [turned?, moved] at hturned

namespace Session

/-- Along every run, a press of a caps lock key tells the input listener the label of the key, if there is a
listener, and once; then it redraws the keys with a caps form, which are the same at every turn, each once and in
ascending order, with what it shows afterwards; then it lights the pressed key or darkens it. Other keys show
what they showed before. -/
theorem redrawing_along_run (layout : Layout) (forgetful : Bool) (requests : List Request) :
    layout.redrawn.Pairwise (· < ·) ∧
    (∀ index, index ∈ layout.redrawn ↔ ∃ key, layout.key? index = some key ∧ key.icon = none ∧
      ∃ c, key.label.toList = [c] ∧ (Legend.isLetter c = true ∨ ∃ pair ∈ shiftPairs, c = pair.1 ∨ c = pair.2)) ∧
    ∀ past exchange future index, (start layout forgetful).1.history requests = past ++ exchange :: future →
      exchange.turned? layout = some index →
        let before := exchange.before.keyboard
        let after := exchange.after.keyboard
        after.capsLock = (!before.capsLock) ∧
        (∃ key, layout.key? index = some key ∧ key.role = .capsLock ∧
          ∃ shown : Nat → String, (∀ other ∈ layout.redrawn, after.legend? other = some (shown other)) ∧
            exchange.notices =
              [Notice.log (.pressed index .capsLock)] ++
                (before.onInput.map (exchange.before.hearing key.label)).toList ++
                (layout.redrawn.map fun other => Notice.draw (.rewrite other (shown other))) ++
                [Notice.draw (.light index after.capsLock), Notice.log (.capsLock after.capsLock)]) ∧
        ∀ other ∉ layout.redrawn, after.legend? other = before.legend? other := by
  refine ⟨layout.redrawn_ascending, ?_, ?_⟩
  · intro index
    rw [Layout.mem_redrawn, Option.any_eq_true]
    simp only [Key.hasCaps, Bool.and_eq_true, Option.isNone_iff_eq_none, Legend.hasCaps_iff]
  · intro past exchange future index hrun hturned before after
    obtain ⟨hbefore, course, hafter⟩ := holds_around (turned_start layout forgetful) turned_exchange hrun
    obtain ⟨key, found, hrole, left, noticed⟩ := course.of_turned hbefore.layout_eq hturned
    have hturns : turns layout (past ++ [exchange]) = turns layout past + 1 := by
      rw [turns_concat, ← Exchange.isSome_turned?, hturned, Option.isSome_some, if_pos rfl]
    rw [hturns] at hafter
    have hcaps : after.capsLock = !before.capsLock := hafter.capsLock_eq.trans hbefore.not_capsLock.symm
    obtain ⟨shown, hshown⟩ : ∃ shown : Nat → String, ∀ other key, layout.key? other = some key →
        shown other = key.legendAfter (turns layout past + 1) :=
      ⟨fun other => (after.legend? other).getD "", fun other key hkey => by
        simp only [after, hafter.legend?_eq, hkey, Option.map_some, Option.getD_some]⟩
    refine ⟨hcaps, ⟨key, found, hrole, shown, ?_, ?_⟩, ?_⟩
    · intro other hother
      obtain ⟨key, hkey, -⟩ := (Option.any_eq_true ..).mp (Layout.mem_redrawn.mp hother)
      rw [hafter.legend?_eq, hkey, Option.map_some, hshown other key hkey]
    · rw [noticed, hcaps, hbefore.notices_capsLock hrole hshown]
    · intro other hother
      rw [hafter.legend?_eq, hbefore.legend?_eq]
      cases hkey : layout.key? other with
      | none => rfl
      | some key =>
          have hplain : key.hasCaps = false := by
            rw [Layout.mem_redrawn, hkey, Option.any_some] at hother
            exact Bool.eq_false_iff.mpr hother
          exact congrArg some (Key.legendAfter_of_not_hasCaps hplain _ _)

-- a capital and the upper member of a pair have caps forms too, a word and an icon have none
example : (Layout.ofLabels ["A", "~", "ab", "", "Caps Lock", "z"]).redrawn = [0, 1, 5] := by
  decide

end Session

end Keyboard

end ScreenKeyboard
