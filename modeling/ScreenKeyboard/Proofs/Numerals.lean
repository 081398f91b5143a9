import Mathlib.Data.List.Basic
import Mathlib.Tactic.SplitIfs
import ScreenKeyboard.Proofs.Digits
import ScreenKeyboard.Toml.Moment
import ScreenKeyboard.Toml.Number

/-!
Whole numbers are read as they were written. The decimal digits of a number before a line end are no date
and no time, since neither a dash nor a colon follows them (`moment?_digits`), and as a number they are the
one they were written from (`number?_toDigits`).
-/

namespace ScreenKeyboard.Toml

open Text (digit? digitValue digit?_of_isDigit isDigit_of_mem_toDigits mapM_digit?_eq_none ne_of_test ofDigits
  ofDigits_digitValue)

/-! ### Neither a date nor a time -/

namespace Moment

/-- A number of so many digits, before a line end, is followed by another digit or by the line end. -/
theorem expect_of_fixed {ds rest : List Char} (hds : ∀ c ∈ ds, c.isDigit = true) {count n : Nat}
    {after : List Char} (hfixed : fixed count (ds ++ '\n' :: rest) = some (n, after)) {mark : Char}
    (hmark : mark.isDigit = false) (hnewline : mark ≠ '\n') : expect mark after = none := by
  rw [fixed] at hfixed
  by_cases hcount : count ≤ ds.length
  · have hafter : after = ds.drop count ++ '\n' :: rest := by
      cases hvalues : ((ds ++ '\n' :: rest).take count).mapM (digit? 10) with
      | none =>
          rw [hvalues] at hfixed
          cases hfixed
      | some values =>
          simp only [hvalues, Option.bind_eq_bind, Option.bind_some] at hfixed
          split_ifs at hfixed
          rw [← List.drop_append_of_le_length hcount]
          exact (Prod.mk.inj (Option.some.inj hfixed)).2.symm
    rw [hafter]
    cases hdrop : ds.drop count with
    | nil => exact if_neg hnewline.symm
    | cons d others =>
        have hd : d ∈ ds := List.mem_of_mem_drop (hdrop ▸ List.mem_cons_self)
        exact if_neg (ne_of_test (hds d hd) hmark)
  · have hmem : '\n' ∈ (ds ++ '\n' :: rest).take count := by
      rw [List.take_append, List.mem_append]
      right
      obtain ⟨k, hk⟩ := Nat.exists_eq_add_of_lt (Nat.lt_of_not_le hcount)
      rw [hk, show ds.length + k + 1 - ds.length = k + 1 by omega, List.take_succ_cons]
      exact List.mem_cons_self
    rw [mapM_digit?_eq_none hmem rfl] at hfixed
    cases hfixed

end Moment

theorem moment?_digits {ds : List Char} (hds : ∀ c ∈ ds, c.isDigit = true) (rest : List Char) :
    moment? (ds ++ '\n' :: rest) = none := by
  have hdate : Moment.readDate (ds ++ '\n' :: rest) = none := by
    rw [Moment.readDate]
    cases hyear : Moment.fixed 4 (ds ++ '\n' :: rest) with
    | none => rfl
    | some year =>
        have hdash : Moment.expect '-' year.2 = none := Moment.expect_of_fixed hds hyear rfl (by decide)
        simp [hdash]
  have htime : Moment.readTime (ds ++ '\n' :: rest) = none := by
    rw [Moment.readTime, Moment.clock]
    cases hhour : Moment.fixed 2 (ds ++ '\n' :: rest) with
    | none => rfl
    | some hour =>
        have hcolon : Moment.expect ':' hour.2 = none := Moment.expect_of_fixed hds hhour rfl (by decide)
        simp [hcolon]
  rw [moment?, hdate, htime]
  rfl

/-! ### A number -/

namespace Number

theorem moreDigits_digits {ds : List Char} (hds : ∀ c ∈ ds, c.isDigit = true) (rest : List Char) :
    moreDigits 10 (ds ++ '\n' :: rest) = some (ds.map digitValue, '\n' :: rest) := by
  induction ds with
  | nil => simp [moreDigits, show digit? 10 '\n' = none from rfl]
  | cons c ds ih =>
      have hc := hds c List.mem_cons_self
      have hunderscore : c ≠ '_' := ne_of_test hc rfl
      have hlater := ih fun d hd => hds d (List.mem_cons_of_mem c hd)
      simp [moreDigits, hunderscore, digit?_of_isDigit hc, hlater]

theorem digits_digits {c : Char} {ds : List Char} (hds : ∀ d ∈ c :: ds, d.isDigit = true)
    (rest : List Char) :
    digits 10 (c :: ds ++ '\n' :: rest) = some ((c :: ds).map digitValue, '\n' :: rest) := by
  have hmore := moreDigits_digits (fun d hd => hds d (List.mem_cons_of_mem c hd)) rest
  simp [digits, digit?_of_isDigit (hds c List.mem_cons_self), hmore]

theorem wholeDigits_digits {c : Char} {ds : List Char} (hds : ∀ d ∈ c :: ds, d.isDigit = true)
    (hlead : c ≠ '0') (rest : List Char) :
    wholeDigits (c :: ds ++ '\n' :: rest) = some ((c :: ds).map digitValue, '\n' :: rest) := by
  rw [← digits_digits hds]
  unfold wholeDigits
  split
  · next heq => exact absurd (List.cons.inj heq).1 hlead
  · rfl

/-- A number other than zero is written without a leading zero. -/
theorem head?_toDigits_ne {n : Nat} (hn : n ≠ 0) : (Nat.toDigits 10 n).head? ≠ some '0' := by
  induction n using Nat.strongRecOn with
  | ind n ih =>
      by_cases hsmall : n < 10
      · have hdigits : ∀ n < 10, n ≠ 0 → n.digitChar ≠ '0' := by decide
        rw [Nat.toDigits_of_lt_base hsmall]
        exact fun h => hdigits n hsmall hn (Option.some.inj h)
      · rw [Nat.toDigits_of_base_le (by decide) (Nat.le_of_not_lt hsmall),
          List.head?_append_of_ne_nil _ Nat.toDigits_ne_nil]
        exact ih (n / 10) (by omega) (by omega)

theorem sign_of_isDigit {c : Char} (hc : c.isDigit = true) (text : List Char) :
    sign (c :: text) = (false, c :: text) := by
  unfold sign
  split
  · next heq => exact absurd (List.cons.inj heq).1 (ne_of_test hc rfl)
  · next heq => exact absurd (List.cons.inj heq).1 (ne_of_test hc rfl)
  · rfl

theorem finish_newline {n : Nat} (hn : n < Nat.pow 2 63) {ds : List Nat} (hds : ofDigits 10 ds = n)
    (rest : List Char) : finish false ds ('\n' :: rest) = some (.integer n, '\n' :: rest) := by
  show finish.integer false ds ('\n' :: rest) = _
  rw [finish.integer, hds, if_neg Bool.false_ne_true, if_pos (Nat.le_sub_one_of_lt hn)]
  rfl

end Number

theorem number?_of_isDigit {c : Char} (hc : c.isDigit = true) (hlead : c ≠ '0') (text : List Char) :
    number? (c :: text) = (Number.wholeDigits (c :: text)).bind fun (whole, rest) =>
      Number.finish false whole rest := by
  unfold number?
  split
  · next heq => exact absurd (List.cons.inj heq).1 hlead
  · next heq => exact absurd (List.cons.inj heq).1 hlead
  · next heq => exact absurd (List.cons.inj heq).1 hlead
  · rw [Number.sign_of_isDigit hc]
    dsimp only
    split
    · next heq => exact absurd (List.cons.inj heq).1 (ne_of_test hc rfl)
    · next heq => exact absurd (List.cons.inj heq).1 (ne_of_test hc rfl)
    · rfl

theorem number?_toDigits {n : Nat} (hn : n < Nat.pow 2 63) (rest : List Char) :
    number? (Nat.toDigits 10 n ++ '\n' :: rest) = some (.integer n, '\n' :: rest) := by
  have hdigits : ∀ c ∈ Nat.toDigits 10 n, c.isDigit = true :=
    fun c hc => isDigit_of_mem_toDigits hc
  have hvalue : ofDigits 10 ((Nat.toDigits 10 n).map digitValue) = n := by
    rw [ofDigits_digitValue, Nat.ofDigitChars_ten_toDigits]
  by_cases hzero : n = 0
  · subst hzero
    rfl
  · cases htext : Nat.toDigits 10 n with
    | nil => exact absurd htext Nat.toDigits_ne_nil
    | cons c ds =>
        have hlead : c ≠ '0' := by
          have hhead := Number.head?_toDigits_ne hzero
          rw [htext] at hhead
          exact fun h => hhead (congrArg some h)
        rw [htext] at hdigits hvalue
        have hwhole := Number.wholeDigits_digits hdigits hlead rest
        rw [List.cons_append, number?_of_isDigit (hdigits c List.mem_cons_self) hlead, ← List.cons_append,
          hwhole]
        exact Number.finish_newline hn hvalue rest

end ScreenKeyboard.Toml
