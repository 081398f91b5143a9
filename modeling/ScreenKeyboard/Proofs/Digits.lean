import ScreenKeyboard.Text.Digit

/-!
Digits and the numbers that they spell: the decimal digits of a number are read as that number
(`number?_toDigits`).
-/

namespace ScreenKeyboard.Text

/-- A character that passes a test is none of those that fail it. -/
theorem ne_of_test {test : Char → Bool} {c d : Char} (hc : test c = true) (hd : test d = false) : c ≠ d := by
  rintro rfl
  rw [hc] at hd
  cases hd

theorem isDigit_of_mem_toDigits {n : Nat} {c : Char} (hc : c ∈ Nat.toDigits 10 n) : c.isDigit = true :=
  Nat.isDigit_of_mem_toDigits (by decide) (by decide) hc

/-- The value of a decimal digit. -/
def digitValue (c : Char) : Nat :=
  c.toNat - '0'.toNat

theorem digit?_of_isDigit {c : Char} (h : c.isDigit = true) : digit? 10 c = some (digitValue c) := by
  simp only [Char.isDigit, Bool.and_eq_true, decide_eq_true_eq] at h
  have hlt : digitValue c < 10 := by
    have hnine : c.toNat ≤ '9'.toNat := h.2
    have hvalue : digitValue c ≤ '9'.toNat - '0'.toNat := Nat.sub_le_sub_right hnine '0'.toNat
    exact Nat.lt_succ_of_le hvalue
  rw [digit?, if_pos ⟨h.1, h.2⟩]
  exact Option.filter_eq_some_iff.mpr ⟨rfl, decide_eq_true hlt⟩

theorem digit?_hexDigit : ∀ d < 16, digit? 16 (hexDigit d) = some d := by decide

theorem mapM_digit?_digits {ds : List Char} (hds : ∀ c ∈ ds, c.isDigit = true) :
    ds.mapM (digit? 10) = some (ds.map digitValue) := by
  induction ds with
  | nil => rfl
  | cons c ds ih =>
      rw [List.mapM_cons, digit?_of_isDigit (hds c List.mem_cons_self),
        ih fun d hd => hds d (List.mem_cons_of_mem c hd)]
      rfl

theorem mapM_digit?_eq_none {text : List Char} {c : Char} (hc : c ∈ text) (h : digit? 10 c = none) :
    text.mapM (digit? 10) = none := by
  induction text with
  | nil => cases hc
  | cons d text ih =>
      rw [List.mapM_cons]
      cases hd : digit? 10 d with
      | none => rfl
      | some value =>
          rcases List.mem_cons.mp hc with rfl | hlater
          · rw [h] at hd
            cases hd
          · rw [ih hlater]
            rfl

theorem ofDigits_digitValue (ds : List Char) :
    ofDigits 10 (ds.map digitValue) = Nat.ofDigitChars 10 ds 0 := by
  rw [ofDigits, List.foldl_map, Nat.ofDigitChars_eq_foldl]
  rfl

theorem number?_toDigits (n : Nat) : number? 10 (Nat.toDigits 10 n) = some n := by
  rw [number?, mapM_digit?_digits fun c hc => isDigit_of_mem_toDigits hc, Option.map_some,
    ofDigits_digitValue, Nat.ofDigitChars_ten_toDigits]

end ScreenKeyboard.Text
