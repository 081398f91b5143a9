import ScreenKeyboard.Hardware.KeyEvent
import ScreenKeyboard.Proofs.Casing
import ScreenKeyboard.Proofs.DoubleTurns

/-!
Hardware keys and keys on the screen type alike. The screen keeps legends and rewrites them at every turn of caps
lock; an event of a hardware key is read at once, by tables of names, of pairs and of the case mappings of Unicode.
For a key of a single ASCII character both come down to `Shift.typed`: `afterTurns_eq` says so of legends,
`types_eq` of events, and `typed_as_keystroke` of a press in any state of the keyboard.
-/

namespace ScreenKeyboard

/-- What the key of `c` types with shift or without it: the upper character of its pair, or its upper case. -/
def Shift.typed (shift : Bool) (c : Char) : Char :=
  if shift then (shifted? c).getD c.toUpper else c

namespace Shift

theorem unshifted?_eq_none {c : Char} (h : ∀ pair ∈ shiftPairs, pair.2 ≠ c) : unshifted? c = none := by
  refine List.findSome?_eq_none_iff.mpr fun pair hpair => ?_
  exact if_neg fun heq => h pair hpair heq.symm

theorem shifted?_eq_none {c : Char} (h : ∀ pair ∈ shiftPairs, pair.1 ≠ c) : shifted? c = none := by
  refine List.findSome?_eq_none_iff.mpr fun pair hpair => ?_
  exact if_neg fun heq => h pair hpair heq.symm

theorem mem_of_unshifted? {c base : Char} (h : unshifted? c = some base) : (base, c) ∈ shiftPairs := by
  obtain ⟨⟨low, high⟩, hmem, hpair⟩ := List.exists_of_findSome?_eq_some h
  dsimp only at hpair
  split_ifs at hpair with hhigh
  rwa [hhigh, ← Option.some.inj hpair]

theorem ne_of_unshifted? {c : Char} (h : unshifted? c = none) : ∀ pair ∈ shiftPairs, pair.2 ≠ c := by
  rintro ⟨low, high⟩ hpair heq
  have hnone : (if c = high then some low else none) = none := List.findSome?_eq_none_iff.mp h _ hpair
  rw [if_pos heq.symm] at hnone
  cases hnone

/-- The partner of a character that is no upper character of a pair is found upwards. -/
theorem partner?_eq_shifted? {c : Char} (h : ∀ pair ∈ shiftPairs, pair.2 ≠ c) : partner? c = shifted? c := by
  cases hshifted : shifted? c with
  | some high =>
      obtain ⟨⟨base, other⟩, hmem, hpair⟩ := List.exists_of_findSome?_eq_some hshifted
      dsimp only at hpair
      split_ifs at hpair with hbase
      cases hpair
      rw [hbase]
      exact (partner?_of_mem _ hmem).1
  | none =>
      refine List.findSome?_eq_none_iff.mpr fun pair hpair => ?_
      have hbase : c ≠ pair.1 := by
        intro heq
        have hnone := List.findSome?_eq_none_iff.mp hshifted pair hpair
        rw [heq] at hnone
        simp at hnone
      exact (if_neg hbase).trans (if_neg fun heq => h pair hpair heq.symm)

end Shift

namespace Legend

theorem toUpper_of_not_isLetter {c : Char} (h : isLetter c = false) : c.toUpper = c := by
  unfold Char.toUpper
  split
  · next hlower =>
      have hletter : isLetter c = true := by
        simp only [isLetter, Bool.or_eq_true, Bool.and_eq_true, decide_eq_true_eq]
        exact Or.inl ⟨hlower.1, hlower.2⟩
      rw [h] at hletter
      cases hletter
  · rfl

/-- What a legend shows that began as a single character, neither a capital nor the upper one of a pair. -/
theorem afterTurns_eq {c : Char} (hbase : ∀ pair ∈ shiftPairs, pair.2 ≠ c) (hsmall : c.isUpper = false) (n : Nat) :
    afterTurns (String.singleton c) n = String.singleton (Shift.typed (decide (n % 2 = 1)) c) := by
  have hpartner := Shift.partner?_eq_shifted? hbase
  cases hcaps : hasCaps (String.singleton c) with
  | false =>
      have hplain : isLetter c = false ∧ Shift.partner? c = none := by
        simpa [hasCaps] using hcaps
      rw [afterTurns_of_not_hasCaps hcaps, Shift.typed, ← hpartner, hplain.2, Option.getD_none,
        toUpper_of_not_isLetter hplain.1, ite_self]
  | true =>
      obtain ⟨d, hd, hletter | ⟨partner, hpaired⟩⟩ := hasCaps_cases hcaps
      · obtain rfl : c = d := by simpa using congrArg String.toList hd
        have hunpaired : Shift.shifted? c = none := by
          rw [← hpartner, Option.eq_none_iff_forall_ne_some]
          intro partner hpaired
          rw [not_isLetter_of_partner? (Shift.partner?_partner? hpaired)] at hletter
          cases hletter
        cases n with
        | zero => rw [afterTurns_zero]; rfl
        | succ n =>
            rw [afterTurns_letter hletter, letterCase, Shift.typed, hunpaired, Option.getD_none,
              (toLower_eq_self_iff c).mpr hsmall]
      · obtain rfl : c = d := by simpa using congrArg String.toList hd
        rw [afterTurns_paired hpaired, Shift.typed, ← hpartner, hpaired, Option.getD_some]
        simp only [decide_eq_true_eq]

end Legend

namespace Text.Casing

/-! ### The case of ASCII characters -/

variable {runs : List CodeRun} {expansions : List (Nat × List Nat)} {c : Char}

/-- On ASCII characters a case mapping is that of its first run, if all else in its tables lies beyond them. -/
theorem map_of_ascii (hruns : ∀ run ∈ runs.tail, 128 ≤ run.first) (hexpansions : ∀ entry ∈ expansions, 128 ≤ entry.1)
    (hascii : c.toNat < 128) :
    map runs expansions c = [((runs.head?.bind (·.image? c.toNat)).map Char.ofNat).getD c] := by
  have hrun : CodeRun.lookup? runs c.toNat = runs.head?.bind (·.image? c.toNat) := by
    cases runs with
    | nil => rfl
    | cons run rest =>
        have hrest : rest.findSome? (·.image? c.toNat) = none := by
          refine List.findSome?_eq_none_iff.mpr fun other hother => if_neg fun hinside => ?_
          have hfirst : 128 ≤ other.first := hruns other hother
          omega
        rw [CodeRun.lookup?, List.findSome?_cons, hrest, List.head?_cons, Option.bind_some]
        cases run.image? c.toNat <;> rfl
  have hlong : expansions.lookup c.toNat = none := by
    refine List.lookup_eq_none_iff.mpr fun entry hentry => bne_iff_ne.mpr fun heq => ?_
    have hfirst := hexpansions entry hentry
    omega
  rw [map, hrun, hlong]
  cases runs.head?.bind (·.image? c.toNat) <;> rfl

theorem upper_ascii : ∀ n < 128,
    (((⟨97, 122, 1, 65⟩ : CodeRun).image? n).map Char.ofNat).getD (Char.ofNat n) = (Char.ofNat n).toUpper := by
  decide +kernel

theorem upper_of_ascii (hascii : c.toNat < 128) : upper c = [c.toUpper] := by
  have hupper := upper_ascii c.toNat hascii
  rw [Char.ofNat_toNat] at hupper
  rw [upper, map_of_ascii (by decide +kernel) (by decide +kernel) hascii, ← hupper]
  rfl

theorem lower_ascii : ∀ n < 128,
    (((⟨65, 90, 1, 97⟩ : CodeRun).image? n).map Char.ofNat).getD (Char.ofNat n) = (Char.ofNat n).toLower := by
  decide +kernel

theorem lower_of_ascii (hascii : c.toNat < 128) : lower c = [c.toLower] := by
  have hlower := lower_ascii c.toNat hascii
  rw [Char.ofNat_toNat] at hlower
  rw [lower, map_of_ascii (by decide +kernel) (by decide +kernel) hascii, ← hlower]
  rfl

end Text.Casing

namespace Hardware

/-! ### Names of keys -/

-- with `List.any`, as a quantifier over characters would be decided by trying all of them
theorem isUpper_keyNames : ∀ entry ∈ keyNames, entry.2.toList.any Char.isUpper = false := by
  decide +kernel

theorem isLetter_keyNames : ∀ entry ∈ keyNames, entry.2.toList.length = 1 →
    entry.2.toList.any Legend.isLetter = false := by
  decide +kernel

theorem numberPad_words : ∀ entry ∈ numberPad, entry.1.toList.length ≠ 1 := by
  decide

theorem plainText_singleton (c : Char) : KeyEvent.plainText (String.singleton c) = String.singleton c := by
  have hword : numberPad.lookup (String.singleton c) = none := by
    refine List.lookup_eq_none_iff.mpr fun entry hentry => ?_
    refine bne_iff_ne.mpr fun heq => numberPad_words entry hentry ?_
    rw [← heq, String.toList_singleton, List.length_singleton]
  rw [KeyEvent.plainText, hword, Option.getD_none]

/-- A key that is named by a single ASCII character types its upper form with shift. -/
theorem shiftedText_singleton {c : Char} (hascii : c.toNat < 128) :
    (KeyEvent.shiftedText (String.singleton c)).getD (KeyEvent.plainText (String.singleton c)) =
      String.singleton (Shift.typed true c) := by
  rw [plainText_singleton, Shift.typed, if_pos rfl]
  cases hshifted : Shift.shifted? c with
  | some high => simp only [KeyEvent.shiftedText, String.toList_singleton, hshifted, Option.getD_some]
  | none =>
      simp only [KeyEvent.shiftedText, String.toList_singleton, hshifted, Option.getD_none]
      cases hnamed : isKeyName (String.singleton c) with
      | true =>
          obtain ⟨entry, hentry, hname⟩ := List.any_eq_true.mp hnamed
          have hlist : entry.2.toList = [c] := by
            rw [of_decide_eq_true hname, String.toList_singleton]
          have hletter : Legend.isLetter c = false := by
            simpa [hlist] using isLetter_keyNames entry hentry (by rw [hlist]; rfl)
          rw [if_pos rfl, Option.getD_none, Legend.toUpper_of_not_isLetter hletter]
      | false =>
          rw [if_neg Bool.false_ne_true, Option.getD_some, Text.Casing.upper_of_ascii hascii]
          rfl

/-- What an event types that names a key by a single ASCII character. -/
theorem types_eq {event : KeyEvent} {stroke : Keystroke} {c : Char} (h : event.keystroke? = some stroke)
    (hkey : stroke.key = String.singleton c) (hascii : c.toNat < 128) :
    stroke.types = String.singleton (Shift.typed event.shift c) := by
  obtain ⟨key, -, rfl⟩ := Option.map_eq_some_iff.mp h
  obtain rfl : key = String.singleton c := hkey
  show (if event.shift then _ else _) = _
  cases hshift : event.shift with
  | true => exact shiftedText_singleton hascii
  | false => exact plainText_singleton c

/-! ### Lower case -/

theorem isUpper_unshifted : ∀ pair ∈ shiftPairs, pair.1.isUpper = false := by
  decide

/-- The key of a character is that of the lower one of its pair, the enter key for a carriage return, and else the
small character. -/
theorem keyOfChar_cases (c : Char) :
    (∃ base, (base, c) ∈ shiftPairs ∧ KeyEvent.keyOfChar c = String.singleton base) ∨
      (c = '\r' ∧ KeyEvent.keyOfChar c = "\n") ∨
      ((∀ pair ∈ shiftPairs, pair.2 ≠ c) ∧ c ≠ '\r' ∧ KeyEvent.keyOfChar c = String.ofList (Text.lower c)) := by
  unfold KeyEvent.keyOfChar
  cases hbase : Shift.unshifted? c with
  | some base => exact Or.inl ⟨base, Shift.mem_of_unshifted? hbase, rfl⟩
  | none =>
      dsimp only
      by_cases hreturn : c = '\r'
      · exact Or.inr (Or.inl ⟨hreturn, if_pos hreturn⟩)
      · exact Or.inr (Or.inr ⟨Shift.ne_of_unshifted? hbase, hreturn, if_neg hreturn⟩)

theorem isUpper_keyOfChar (c : Char) : ∀ d ∈ (KeyEvent.keyOfChar c).toList, d.isUpper = false := by
  intro d hd
  rcases keyOfChar_cases c with ⟨base, hpair, heq⟩ | ⟨-, heq⟩ | ⟨-, -, heq⟩
  · rw [heq, String.toList_singleton] at hd
    rw [List.mem_singleton.mp hd]
    exact isUpper_unshifted _ hpair
  · rw [heq] at hd
    rw [List.mem_singleton.mp hd]
    decide
  · rw [heq, String.toList_ofList] at hd
    exact Text.Casing.isUpper_lower c d hd

/-- How an event names its key: by its character, by the name of its key code, by the character with this code in
lower case if the code has no name, and as the enter key if it has no code at all. -/
inductive KeyEvent.Names (event : KeyEvent) : String → Prop
  | character {c : Char} (kind : event.kind = .press) (char : charOfCode? event.charCode = some c) :
      event.Names (keyOfChar c)
  | word {code : Nat} {name : String} (kind : event.kind ≠ .press) (keyCode : event.keyCode = some code)
      (found : keyName? code = some name) : event.Names name
  | small {code : Nat} {c : Char} (kind : event.kind ≠ .press) (keyCode : event.keyCode = some code)
      (unnamed : keyName? code = none) (char : charOfCode? code = some c) : event.Names (String.ofList (Text.lower c))
  | enter (kind : event.kind ≠ .press) (keyCode : event.keyCode = none) (charCode : event.charCode = 0) :
      event.Names "\n"

theorem key?_eq_some_iff {event : KeyEvent} {key : String} : event.key? = some key ↔ event.Names key := by
  constructor
  · intro h
    unfold KeyEvent.key? at h
    split at h
    · next kind =>
        obtain ⟨c, hchar, rfl⟩ := Option.map_eq_some_iff.mp h
        exact .character kind hchar
    · next code keyCode kind =>
        cases hname : keyName? code with
        | some name =>
            rw [hname] at h
            obtain rfl := Option.some.inj h
            exact .word kind keyCode hname
        | none =>
            rw [hname] at h
            obtain ⟨c, hchar, rfl⟩ := Option.map_eq_some_iff.mp h
            exact .small kind keyCode hname hchar
    · next keyCode kind =>
        split_ifs at h with hcode
        obtain rfl := Option.some.inj h
        exact .enter kind keyCode hcode
  · intro h
    cases h with
    | character kind char => simp only [KeyEvent.key?, kind, char, Option.map_some]
    | word kind keyCode found => simp only [KeyEvent.key?, keyCode, found]
    | small kind keyCode unnamed char => simp only [KeyEvent.key?, keyCode, unnamed, char, Option.map_some]
    | enter kind keyCode charCode => simp only [KeyEvent.key?, keyCode, charCode, if_true]

/-- The name of a key holds no capitals. -/
theorem isUpper_key? {event : KeyEvent} {key : String} (h : event.key? = some key) :
    ∀ c ∈ key.toList, c.isUpper = false := by
  cases key?_eq_some_iff.mp h with
  | character kind char => exact isUpper_keyOfChar _
  | @word code name kind keyCode found =>
      intro c hc
      exact Bool.eq_false_iff.mpr (List.any_eq_false.mp (isUpper_keyNames _ (Text.mem_of_lookup found)) c hc)
  | small kind keyCode unnamed char =>
      rw [String.toList_ofList]
      exact Text.Casing.isUpper_lower _
  | enter kind keyCode charCode =>
      intro c hc
      rw [List.mem_singleton.mp hc]
      decide

theorem charOfCode?_toNat (c : Char) : charOfCode? c.toNat = some c := by
  have hvalid : c.toNat.isValidChar := c.valid
  rw [charOfCode?, if_pos hvalid, Char.ofNat_toNat]

theorem lower_of_small {c : Char} (hascii : c.toNat < 128) (hsmall : c.isUpper = false) : Text.lower c = [c] := by
  rw [Text.Casing.lower_of_ascii hascii, (Legend.toLower_eq_self_iff c).mpr hsmall]

/-- A small character that no pair has as its upper one is the name of its own key. -/
theorem keyOfChar_eq_self {c : Char} (hbase : ∀ pair ∈ shiftPairs, pair.2 ≠ c) (hreturn : c ≠ '\r')
    (hlower : Text.lower c = [c]) : KeyEvent.keyOfChar c = String.singleton c := by
  rw [KeyEvent.keyOfChar, Shift.unshifted?_eq_none hbase]
  dsimp only
  rw [if_neg hreturn, hlower]
  rfl

theorem key?_of_char (c : Char) (shift : Bool) :
    (KeyEvent.press c.toNat shift).key? = some (KeyEvent.keyOfChar c) := by
  show (charOfCode? c.toNat).map KeyEvent.keyOfChar = _
  rw [charOfCode?_toNat, Option.map_some]

theorem key?_press {c : Char} (hascii : c.toNat < 128) (hbase : ∀ pair ∈ shiftPairs, pair.2 ≠ c)
    (hsmall : c.isUpper = false) (hreturn : c ≠ '\r') (shift : Bool) :
    (KeyEvent.press c.toNat shift).key? = some (String.singleton c) := by
  rw [key?_of_char, keyOfChar_eq_self hbase hreturn (lower_of_small hascii hsmall)]

end Hardware

namespace Keyboard.Session

open Hardware

/-- A press of a key that types: the answer, the value and the input listener agree. -/
theorem press_typed {layout : Layout} {n : Nat} {session : Session} (h : Turned layout n session.keyboard)
    {index : Nat} {key : Key} (found : layout.key? index = some key) {value : String}
    (htyped : key.outcomeAfter n = .typed value) :
    (session.exchange (.press index)).answer = .pressed (.ok (.typed value)) ∧
      (session.exchange (.press index)).after.keyboard.value = value ∧
      (session.exchange (.press index)).notices.filterMap Notice.argument? =
        (session.keyboard.onInput.map fun _ => value).toList := by
  have hpressed := pressed?_press h index
  rw [found] at hpressed
  obtain ⟨other, hother, moved, left, noticed⟩ := (course_exchange session rfl).of_pressed h.layout_eq hpressed
  have houtcome := (h.outcome_eq hother).trans htyped
  refine ⟨by rw [answer_press h found, htyped], ?_, ?_⟩
  · rw [left, advance_keyboard, pressing]
    exact (actuate_value _ other key).trans (congrArg Outcome.value houtcome)
  · rw [noticed, advance, observeAll_arguments]
    exact pressing_arguments houtcome

/-- In every state of the keyboard, a key on the screen that types its label, a single ASCII character but not the
upper one of a pair, types what a hardware key of this name types while shift is held as caps lock is; the value
and the input listener get the same. Unless the label is a capital or a carriage return, there is an event that
names such a key: that of the character itself. -/
theorem typed_as_keystroke (layout : Layout) (forgetful : Bool) (requests : List Request) (index : Nat) (key : Key)
    (c : Char) (found : layout.key? index = some key) (hrole : key.role = .literal) (hicon : key.icon = none)
    (hlabel : key.label = String.singleton c) (hascii : c.toNat < 128) (hbase : ∀ pair ∈ shiftPairs, pair.2 ≠ c) :
    let session := (start layout forgetful).1.after requests
    let pressed := session.exchange (.press index)
    (∀ (event : KeyEvent) stroke, event.keystroke? = some stroke → stroke.key = String.singleton c →
      event.shift = session.keyboard.capsLock →
        pressed.answer = .pressed (.ok (.typed stroke.types)) ∧
        pressed.after.keyboard.value = stroke.types ∧
        pressed.notices.filterMap Notice.argument? = (session.keyboard.onInput.map fun _ => stroke.types).toList) ∧
    (c.isUpper = false → c ≠ '\r' → ∃ stroke,
      (KeyEvent.press c.toNat session.keyboard.capsLock).keystroke? = some stroke ∧
        stroke.key = String.singleton c) := by
  intro session pressed
  have hturned := turned_after layout forgetful requests
  constructor
  · intro event stroke hstroke hkey hshift
    obtain ⟨name, hname, rfl⟩ := Option.map_eq_some_iff.mp hstroke
    have hlist : name.toList = [c] := (congrArg String.toList hkey).trans (String.toList_singleton c)
    have hsmall : c.isUpper = false := isUpper_key? hname c (hlist ▸ List.mem_singleton_self c)
    refine press_typed hturned found ?_
    rw [types_eq hstroke hkey hascii, hshift, hturned.capsLock_eq, ← Legend.afterTurns_eq hbase hsmall, ← hlabel]
    simp only [Key.outcomeAfter, hrole, hicon, Option.isSome_none, Bool.false_eq_true, if_false]
  · intro hsmall hreturn
    have hname := key?_press hascii hbase hsmall hreturn session.keyboard.capsLock
    exact ⟨_, by rw [KeyEvent.keystroke?, hname, Option.map_some], rfl⟩

/-- With caps lock engaged, the key `\\` types what the hardware key with the code of this name types with shift. -/
theorem typed_as_keystroke_of_backslash :
    let session := (start Layout.qwerty false).1.after [.pressLabel "Caps Lock"]
    (session.exchange (.press 43)).answer = .pressed (.ok (.typed "|")) :=
  ((typed_as_keystroke Layout.qwerty false [.pressLabel "Caps Lock"] 43 (Key.literal "\\") '\\' (by decide) rfl rfl
    rfl (by decide) (by decide)).1 (KeyEvent.down 220 true) ⟨"|", "\\"⟩ (by decide) rfl (by decide +kernel)).1

end Keyboard.Session

end ScreenKeyboard
