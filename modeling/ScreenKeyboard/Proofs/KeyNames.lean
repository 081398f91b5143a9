import ScreenKeyboard.Proofs.Keystrokes

/-!
The names of keys, and what shift makes of them. Names come from the table of key codes, from the lower case of a
code point and from the character of a character event, and all of them meet in one normal form: a key that is
named by a character is the key of this character (`keystroke?_of_own_key`). Which key an event names does not
depend on shift, and what a key with a word for its name types does not either (`shift_keeps_names`).
-/

namespace ScreenKeyboard.Hardware

variable {event : KeyEvent} {stroke : Keystroke} {key : String} {c k : Char}

/-- What a key types with shift or without it. -/
def KeyEvent.text (shift : Bool) (key : String) : String :=
  if shift then (shiftedText key).getD (plainText key) else plainText key

theorem keystroke?_eq_some_iff : event.keystroke? = some stroke ↔
    event.Names stroke.key ∧ stroke.types = KeyEvent.text event.shift stroke.key := by
  rw [KeyEvent.keystroke?, Option.map_eq_some_iff]
  constructor
  · rintro ⟨key, hkey, rfl⟩
    exact ⟨key?_eq_some_iff.mp hkey, rfl⟩
  · rintro ⟨hnames, htypes⟩
    refine ⟨stroke.key, key?_eq_some_iff.mpr hnames, ?_⟩
    rw [KeyEvent.text] at htypes
    rw [← htypes]

/-! ### Normal forms -/

theorem pairs_ascii : ∀ pair ∈ shiftPairs, (pair.1.toNat < 128 ∧ pair.2.toNat < 128) ∧
    ¬('a'.toNat ≤ pair.1.toNat ∧ pair.1.toNat ≤ 'z'.toNat) ∧
    ¬('a'.toNat ≤ pair.2.toNat ∧ pair.2.toNat ≤ 'z'.toNat) := by
  decide

theorem pairs_apart : ∀ pair ∈ shiftPairs, ∀ other ∈ shiftPairs, other.2 ≠ pair.1 := by
  decide

theorem keyNames_plain : ∀ entry ∈ keyNames,
    entry.2 ≠ "" ∧ (entry.2.toList.all fun c => c.toNat < 128 && c != '\r') = true := by
  decide +kernel

theorem ascii_keyNames (h : ∃ code, (code, key) ∈ keyNames) (hmem : c ∈ key.toList) : c.toNat < 128 ∧ c ≠ '\r' := by
  obtain ⟨code, hentry⟩ := h
  have hplain := List.all_eq_true.mp (keyNames_plain _ hentry).2 c hmem
  rwa [Bool.and_eq_true, decide_eq_true_iff, bne_iff_ne] at hplain

/-- A character that a key may have as its name. -/
structure IsNormal (k : Char) : Prop where
  lower_eq : Text.lower k = [k]
  ne_return : k ≠ '\r'

theorem isNormal_of_small (hascii : k.toNat < 128) (hsmall : k.isUpper = false) (hreturn : k ≠ '\r') : IsNormal k where
  lower_eq := lower_of_small hascii hsmall
  ne_return := hreturn

theorem isNormal_of_lower (h : Text.lower c = [k]) (hreturn : c ≠ '\r') : IsNormal k where
  lower_eq := Text.Casing.lower_of_lower_eq h
  ne_return := by
    rintro rfl
    rcases Text.Casing.lower_eq_singleton h with heq | hletter | hforeign
    · exact hreturn heq.symm
    · exact absurd hletter (by decide)
    · exact absurd hforeign (by decide)

theorem toList_eq_singleton (h : key = String.singleton k) : key.toList = [k] := by
  rw [h, String.toList_singleton]

theorem lower_eq_of_ofList (h : String.ofList (Text.lower c) = String.singleton k) : Text.lower c = [k] := by
  rw [← toList_eq_singleton h, String.toList_ofList]

theorem isNormal_of_keyOfChar (h : KeyEvent.keyOfChar c = String.singleton k) : IsNormal k := by
  rcases keyOfChar_cases c with ⟨base, hpair, heq⟩ | ⟨-, heq⟩ | ⟨-, hreturn, heq⟩
  · obtain rfl : base = k := by simpa using heq.symm.trans h
    have hreturn : ∀ pair ∈ shiftPairs, pair.1 ≠ '\r' := by decide
    exact isNormal_of_small (pairs_ascii _ hpair).1.1 (isUpper_unshifted _ hpair) (hreturn _ hpair)
  · obtain rfl : '\n' = k := by simpa using toList_eq_singleton (heq.symm.trans h)
    exact isNormal_of_small (by decide) (by decide) (by decide)
  · exact isNormal_of_lower (lower_eq_of_ofList (heq.symm.trans h)) hreturn

/-- A key that is named by a single character is named by one in normal form, wherever the name comes from. -/
theorem isNormal_of_names (h : event.Names key) (hkey : key = String.singleton k) : IsNormal k := by
  cases h with
  | character kind char => exact isNormal_of_keyOfChar hkey
  | @word code name kind keyCode found =>
      have hmem := Text.mem_of_lookup found
      have hchar : k ∈ key.toList := by rw [toList_eq_singleton hkey]; exact List.mem_singleton_self k
      have hsmall := List.any_eq_false.mp (isUpper_keyNames _ hmem) k hchar
      obtain ⟨hascii, hreturn⟩ := ascii_keyNames ⟨code, hmem⟩ hchar
      exact isNormal_of_small hascii (Bool.eq_false_iff.mpr hsmall) hreturn
  | @small code c kind keyCode unnamed char =>
      refine isNormal_of_lower (lower_eq_of_ofList hkey) ?_
      rintro rfl
      -- the code of a carriage return has a name, the line feed
      have hcode : code = 13 := by
        unfold charOfCode? at char
        split_ifs at char with hvalid
        rw [← Text.toNat_ofNat hvalid, Option.some.inj char]
        rfl
      rw [hcode] at unnamed
      exact absurd unnamed (by decide)
  | enter kind keyCode charCode =>
      obtain rfl : '\n' = k := by simpa using toList_eq_singleton hkey
      exact isNormal_of_small (by decide) (by decide) (by decide)

/-- Characters are not named by the upper one of a pair. -/
theorem ne_upper_of_keyOfChar (h : KeyEvent.keyOfChar c = String.singleton k) : ∀ pair ∈ shiftPairs, pair.2 ≠ k := by
  rcases keyOfChar_cases c with ⟨base, hpair, heq⟩ | ⟨-, heq⟩ | ⟨hbase, -, heq⟩
  · obtain rfl : base = k := by simpa using heq.symm.trans h
    exact pairs_apart _ hpair
  · obtain rfl : '\n' = k := by simpa using toList_eq_singleton (heq.symm.trans h)
    decide
  · intro pair hpair hupper
    obtain ⟨hascii, -, hletter⟩ := pairs_ascii pair hpair
    rw [hupper] at hascii hletter
    rcases Text.Casing.lower_eq_singleton (lower_eq_of_ofList (heq.symm.trans h)) with hsame | hsmall | hforeign
    · exact hbase pair hpair (hupper.trans hsame)
    · exact hletter hsmall
    · exact Nat.not_lt.mpr hforeign hascii.2

/-- An event that names a key by a character, but not by the upper one of a pair, means what the character event
for this character means with the same shift. Character events never name a key by the upper one of a pair. -/
theorem keystroke?_of_own_key (event : KeyEvent) (stroke : Keystroke) (k : Char)
    (h : event.keystroke? = some stroke) (hkey : stroke.key = String.singleton k) :
    (event.kind = .press → ∀ pair ∈ shiftPairs, pair.2 ≠ k) ∧
      ((∀ pair ∈ shiftPairs, pair.2 ≠ k) → (KeyEvent.press k.toNat event.shift).keystroke? = some stroke) := by
  obtain ⟨hnames, htypes⟩ := keystroke?_eq_some_iff.mp h
  constructor
  · intro hpress
    rw [hkey] at hnames
    generalize hname : String.singleton k = name at hnames
    cases hnames with
    | character kind char => exact ne_upper_of_keyOfChar hname.symm
    | word kind keyCode found => exact absurd hpress kind
    | small kind keyCode unnamed char => exact absurd hpress kind
    | enter kind keyCode charCode => exact absurd hpress kind
  · intro hbase
    have hnormal := isNormal_of_names hnames hkey
    have hown := keyOfChar_eq_self hbase hnormal.ne_return hnormal.lower_eq
    refine keystroke?_eq_some_iff.mpr ⟨?_, htypes⟩
    rw [← key?_eq_some_iff, key?_of_char, hown, hkey]

/-- The kelvin sign names the key `k`, and with shift so does its character. -/
theorem keystroke?_of_kelvin :
    (KeyEvent.press 0x212a true).keystroke? = some ⟨"K", "k"⟩ ∧
      (KeyEvent.press 'k'.toNat true).keystroke? = some ⟨"K", "k"⟩ :=
  have h : (KeyEvent.press 0x212a true).keystroke? = some ⟨"K", "k"⟩ := by decide +kernel
  ⟨h, (keystroke?_of_own_key _ _ 'k' h rfl).2 (by decide)⟩

/-! ### Shift -/

theorem charOfCode?_eq_none_iff {code : Nat} : charOfCode? code = none ↔ ¬code.isValidChar := by
  rw [charOfCode?, ite_eq_right_iff]
  exact forall_congr' fun _ => iff_of_false (Option.some_ne_none _) id

theorem key?_eq_none_iff : event.key? = none ↔
    (event.kind = .press ∧ ¬event.charCode.isValidChar) ∨
      (event.kind ≠ .press ∧ ∃ code, event.keyCode = some code ∧ keyName? code = none ∧ ¬code.isValidChar) ∨
        (event.kind ≠ .press ∧ event.keyCode = none ∧ event.charCode ≠ 0) := by
  by_cases hpress : event.kind = .press
  · rw [KeyEvent.key?, hpress, Option.map_eq_none_iff, charOfCode?_eq_none_iff]
    simp only [ne_eq, not_true_eq_false, true_and, false_and, or_false]
  · simp only [hpress, ne_eq, not_false_eq_true, true_and, false_and, false_or]
    cases hcode : event.keyCode with
    | some code =>
        cases hname : keyName? code <;>
          simp [KeyEvent.key?, hcode, hname, charOfCode?_eq_none_iff]
    | none => simp [KeyEvent.key?, hcode]

theorem plainText_of_mem : ∀ entry ∈ numberPad, KeyEvent.plainText entry.1 = entry.2 := by
  decide

theorem plainText_of_not_mem (h : ∀ entry ∈ numberPad, entry.1 ≠ key) : KeyEvent.plainText key = key := by
  have hnone : numberPad.lookup key = none :=
    List.lookup_eq_none_iff.mpr fun entry hentry => bne_iff_ne.mpr (h entry hentry).symm
  rw [KeyEvent.plainText, hnone, Option.getD_none]

theorem plainText_ne_self_iff : KeyEvent.plainText key ≠ key ↔ ∃ entry ∈ numberPad, entry.1 = key := by
  constructor
  · intro hne
    by_contra hmissing
    exact hne (plainText_of_not_mem fun entry hentry heq => hmissing ⟨entry, hentry, heq⟩)
  · rintro ⟨entry, hentry, rfl⟩
    have hother : ∀ entry ∈ numberPad, entry.2 ≠ entry.1 := by decide
    rw [plainText_of_mem entry hentry]
    exact hother entry hentry

theorem text_false (key : String) : KeyEvent.text false key = KeyEvent.plainText key :=
  rfl

theorem silentKeys_keep : ∀ key ∈ silentKeys, KeyEvent.shiftedText key = none ∧ KeyEvent.plainText key = key := by
  decide +kernel

theorem text_of_silent (h : isSilent key = true) (shift : Bool) : KeyEvent.text shift key = key := by
  obtain ⟨hshifted, hplain⟩ := silentKeys_keep key (List.contains_iff_mem.mp h)
  rw [KeyEvent.text, hshifted, Option.getD_none, hplain, ite_self]

/-- Shift is lost on a key with a word for its name. -/
theorem text_of_word (hlong : 1 < key.toList.length) (hname : ∃ code, (code, key) ∈ keyNames) (shift : Bool) :
    KeyEvent.text shift key = KeyEvent.plainText key := by
  obtain ⟨code, hmem⟩ := hname
  have hkeyName : isKeyName key = true := List.any_eq_true.mpr ⟨_, hmem, decide_eq_true rfl⟩
  have hshifted : KeyEvent.shiftedText key = none := by
    unfold KeyEvent.shiftedText
    split
    · next c hlist =>
        rw [hlist] at hlong
        exact absurd hlong (Nat.lt_irrefl 1)
    · rw [if_pos hkeyName]
  rw [KeyEvent.text, hshifted, Option.getD_none, ite_self]

theorem ofList_ne_empty {cs : List Char} (h : cs ≠ []) : String.ofList cs ≠ "" := by
  intro hempty
  rw [← String.toList_inj, String.toList_ofList] at hempty
  exact h hempty

theorem ne_empty_of_names (h : event.Names key) : key ≠ "" := by
  cases h with
  | @character c kind char =>
      rcases keyOfChar_cases c with ⟨base, -, heq⟩ | ⟨-, heq⟩ | ⟨-, -, heq⟩
      · rw [heq]
        exact ofList_ne_empty (List.cons_ne_nil base [])
      · rw [heq]
        decide
      · rw [heq]
        exact ofList_ne_empty (Text.Casing.lower_ne_nil c)
  | word kind keyCode found => exact (keyNames_plain _ (Text.mem_of_lookup found)).1
  | small kind keyCode unnamed char => exact ofList_ne_empty (Text.Casing.lower_ne_nil _)
  | enter kind keyCode charCode => decide

theorem plainText_ne_empty (h : key ≠ "") : KeyEvent.plainText key ≠ "" := by
  by_cases hpad : ∃ entry ∈ numberPad, entry.1 = key
  · obtain ⟨entry, hentry, rfl⟩ := hpad
    have htyped : ∀ entry ∈ numberPad, entry.2 ≠ "" := by decide
    rw [plainText_of_mem entry hentry]
    exact htyped entry hentry
  · rwa [plainText_of_not_mem fun entry hentry heq => hpad ⟨entry, hentry, heq⟩]

theorem shiftedText_ne_empty {text : String} (hkey : key ≠ "") (h : KeyEvent.shiftedText key = some text) :
    text ≠ "" := by
  unfold KeyEvent.shiftedText at h
  split at h
  · next c hlist =>
      cases hshifted : Shift.shifted? c with
      | some high =>
          rw [hshifted] at h
          rw [← Option.some.inj h]
          exact ofList_ne_empty (List.cons_ne_nil high [])
      | none =>
          rw [hshifted] at h
          dsimp only at h
          split_ifs at h
          rw [← Option.some.inj h]
          exact ofList_ne_empty (Text.Casing.upper_ne_nil c)
  · next hlist =>
      split_ifs at h
      rw [← Option.some.inj h]
      refine ofList_ne_empty fun hnil => hkey ?_
      cases hchars : key.toList with
      | nil => rw [← String.toList_inj, hchars, String.toList_empty]
      | cons c rest =>
          rw [hchars, List.flatMap_cons] at hnil
          exact absurd (List.append_eq_nil_iff.mp hnil).1 (Text.Casing.upper_ne_nil c)

theorem text_ne_empty (h : key ≠ "") (shift : Bool) : KeyEvent.text shift key ≠ "" := by
  cases shift with
  | false => exact plainText_ne_empty h
  | true =>
      rw [KeyEvent.text, if_pos rfl]
      cases hshifted : KeyEvent.shiftedText key with
      | none => exact plainText_ne_empty h
      | some text => exact shiftedText_ne_empty h hshifted

/-- If a key types the same with shift and without it, the event means the same with shift and without it. -/
theorem keystroke?_of_text (h : event.keystroke? = some stroke)
    (htext : ∀ shift, KeyEvent.text shift stroke.key = stroke.types) (shift : Bool) :
    { event with shift := shift }.keystroke? = some stroke := by
  have hkey : event.key? = some stroke.key := key?_eq_some_iff.mpr (keystroke?_eq_some_iff.mp h).1
  exact keystroke?_eq_some_iff.mpr ⟨key?_eq_some_iff.mp hkey, (htext shift).symm⟩

/-- Shift has no part in whether an event names a key, nor in which key it names. It fails to if its code is no
character and has no name, or if it has no code but a character. Keys that type no character keep their name as
their text, and so does every key with a word for its name, but for the four on the number pad that stand for a
character. Only these four type other than their name when shift is not held. -/
theorem shift_keeps_names (event : KeyEvent) :
    (∀ shift, { event with shift := shift }.keystroke?.map Keystroke.key = event.keystroke?.map Keystroke.key) ∧
    (event.keystroke? = none ↔
      (event.kind = .press ∧ ¬event.charCode.isValidChar) ∨
        (event.kind ≠ .press ∧ ∃ code, event.keyCode = some code ∧ keyName? code = none ∧ ¬code.isValidChar) ∨
          (event.kind ≠ .press ∧ event.keyCode = none ∧ event.charCode ≠ 0)) ∧
    ∀ stroke, event.keystroke? = some stroke →
      (isSilent stroke.key = true →
        stroke.types = stroke.key ∧ ∀ shift, { event with shift := shift }.keystroke? = some stroke) ∧
      (1 < stroke.key.toList.length → (∃ code, (code, stroke.key) ∈ keyNames) →
        (∀ shift, { event with shift := shift }.keystroke? = some stroke) ∧
          (∀ entry ∈ numberPad, entry.1 = stroke.key → stroke.types = entry.2) ∧
            ((∀ entry ∈ numberPad, entry.1 ≠ stroke.key) → stroke.types = stroke.key)) ∧
      (event.shift = false → (stroke.types ≠ stroke.key ↔ ∃ entry ∈ numberPad, entry.1 = stroke.key)) ∧
      stroke.types ≠ "" ∧ stroke.key ≠ "" := by
  refine ⟨fun shift => ?_, ?_, fun stroke h => ?_⟩
  · simp only [KeyEvent.keystroke?, Option.map_map]
    rfl
  · rw [KeyEvent.keystroke?, Option.map_eq_none_iff, key?_eq_none_iff]
  · obtain ⟨hnames, htypes⟩ := keystroke?_eq_some_iff.mp h
    have hkey := ne_empty_of_names hnames
    refine ⟨fun hsilent => ?_, fun hlong hname => ⟨?_, fun entry hentry hentryKey => ?_, fun hmissing => ?_⟩,
      fun hshift => ?_, ?_, hkey⟩
    · rw [text_of_silent hsilent] at htypes
      exact ⟨htypes, keystroke?_of_text h fun shift => (text_of_silent hsilent shift).trans htypes.symm⟩
    · rw [text_of_word hlong hname] at htypes
      exact keystroke?_of_text h fun shift => (text_of_word hlong hname shift).trans htypes.symm
    · rw [htypes, text_of_word hlong hname, ← hentryKey, plainText_of_mem entry hentry]
    · rw [htypes, text_of_word hlong hname, plainText_of_not_mem hmissing]
    · rw [htypes, hshift, text_false]
      exact plainText_ne_self_iff
    · rw [htypes]
      exact text_ne_empty hkey event.shift

end ScreenKeyboard.Hardware
