import Mathlib.Data.List.TakeWhile
import Mathlib.Tactic.ByContra
import Mathlib.Tactic.SplitIfs
import ScreenKeyboard.Proofs.Numerals
import ScreenKeyboard.Toml.Quote
import ScreenKeyboard.Toml.QuoteForm

/-!
Quoted strings are read as they were written. Each form has a lemma of its own: between double quotes any
string comes back, between single quotes one that needs no escape. Between three quotes a quote is read with
an eye on the quotes after it, so there the written text may begin with at most two quotes, less those just
before it (`leading_writeBlock`).
-/

namespace ScreenKeyboard.Toml

open Text (digit?_hexDigit ne_of_test)

theorem eq_of_isBlank {c : Char} (h : isBlank c = true) : c = ' ' ∨ c = '\t' := by
  rw [isBlank, Bool.or_eq_true, decide_eq_true_eq, decide_eq_true_eq] at h
  exact h

namespace Quote

open QuoteForm

theorem isVisible_of_not_isControl {c : Char} (h : isControl c = false) : c = '\n' ∨ isVisible c = true := by
  by_cases htab : c = '\t'
  · exact Or.inr (by rw [htab]; rfl)
  by_cases hnewline : c = '\n'
  · exact Or.inl hnewline
  · simp only [isControl, Bool.or_eq_false_iff, Bool.and_eq_false_imp, Bool.and_eq_true, decide_eq_true_eq,
      decide_eq_false_iff_not, ne_eq] at h
    refine Or.inr ?_
    simp only [isVisible, Bool.or_eq_true, Bool.and_eq_true, decide_eq_true_eq, ne_eq]
    exact Or.inr ⟨by by_contra hlt; exact h.1 ⟨by omega, htab⟩ hnewline, h.2⟩

/-! ### Escapes -/

/-- That an escape takes these characters, all of them, and stands for this character. -/
inductive Escape.Reads : Escape → List Char → Char → Prop
  | last {escape : Escape} {c d : Char} (step : escape.step c = some (.char d)) : escape.Reads [c] d
  | more {escape next : Escape} {c d : Char} {cs : List Char} (step : escape.step c = some (.more next))
      (rest : next.Reads cs d) : escape.Reads (c :: cs) d

theorem reads_code {c : Char} (h : c.toNat < 256) :
    Escape.started.Reads
      ['u', '0', '0', Text.hexDigit (c.toNat / 16), Text.hexDigit (c.toNat % 16)] c := by
  have hhigh := digit?_hexDigit (c.toNat / 16) (by omega)
  have hlow := digit?_hexDigit (c.toNat % 16) (by omega)
  have hcode : 16 * (c.toNat / 16) + c.toNat % 16 = c.toNat := Nat.div_add_mod c.toNat 16
  have hvalid : c.toNat.isValidChar := c.valid
  have step_high : (Escape.code 2 0).step (Text.hexDigit (c.toNat / 16)) =
      some (.more (.code 1 (c.toNat / 16))) := by
    simp [Escape.step, hhigh]
  have step_low : (Escape.code 1 (c.toNat / 16)).step (Text.hexDigit (c.toNat % 16)) = some (.char c) := by
    simp [Escape.step, hlow, hcode, hvalid, Char.ofNat_toNat]
  exact .more rfl (.more rfl (.more rfl (.more step_high (.last step_low))))

/-- How a character is written: as it is, if it may stand like that, or by an escape that reads as it. -/
inductive Written (c : Char) : List Char → Prop
  | plain (visible : isVisible c = true) (unquoted : c ≠ '"') (unescaped : c ≠ '\\') : Written c [c]
  | escaped (cs : List Char) (reads : Escape.started.Reads cs c) : Written c ('\\' :: cs)

theorem written_escape {c : Char} (unquoted : c ≠ '"') (inline : c ≠ '\n') : Written c (escape c) := by
  unfold escape
  split_ifs with hbackslash htab hback hfeed hreturn hcontrol
  · exact .escaped _ (.last (by rw [hbackslash]; rfl))
  · exact .escaped _ (.last (by rw [htab]; rfl))
  · exact .escaped _ (.last (by rw [hback]; rfl))
  · exact .escaped _ (.last (by rw [hfeed]; rfl))
  · exact .escaped _ (.last (by rw [hreturn]; rfl))
  · refine .escaped _ (reads_code ?_)
    simp only [isControl, Bool.or_eq_true, Bool.and_eq_true, decide_eq_true_eq] at hcontrol
    omega
  · have hvisible := (isVisible_of_not_isControl (Bool.not_eq_true _ ▸ hcontrol)).resolve_left inline
    exact .plain hvisible unquoted hbackslash

theorem Written.head {c : Char} {text : List Char} (h : Written c text) :
    ∃ first rest, text = first :: rest ∧ first ≠ '"' ∧ first ≠ '\n' := by
  cases h with
  | plain visible unquoted unescaped => exact ⟨c, [], rfl, unquoted, ne_of_test visible rfl⟩
  | escaped cs reads => exact ⟨'\\', cs, rfl, by decide, by decide⟩

theorem Escape.Reads.not_return {escape : Escape} {cs : List Char} {d : Char} (h : escape.Reads cs d) :
    '\r' ∉ cs := by
  have stuck : ∀ escape : Escape, escape.step '\r' = none := by
    intro escape
    cases escape <;> rfl
  induction h with
  | last step =>
      rw [List.mem_singleton]
      rintro rfl
      rw [stuck] at step
      cases step
  | more step rest ih =>
      rw [List.mem_cons, not_or]
      refine ⟨?_, ih⟩
      rintro rfl
      rw [stuck] at step
      cases step

theorem Written.not_return {c : Char} {text : List Char} (h : Written c text) : '\r' ∉ text := by
  cases h with
  | plain visible unquoted unescaped =>
      rw [List.mem_singleton]
      exact (ne_of_test visible rfl).symm
  | escaped cs reads =>
      rw [List.mem_cons, not_or]
      exact ⟨by decide, reads.not_return⟩

/-! ### On one line -/

theorem Escape.Reads.basic_eq {escape : Escape} {cs : List Char} {d : Char} (h : escape.Reads cs d)
    (rest : List Char) : basic (some escape) (cs ++ rest) = prepend d (basic none rest) := by
  induction h with
  | last step => rw [List.singleton_append, basic, step]
  | more step _ ih =>
      rw [List.cons_append, basic, step]
      exact ih

theorem Written.basic_eq {c : Char} {text : List Char} (h : Written c text) (rest : List Char) :
    basic none (text ++ rest) = prepend c (basic none rest) := by
  cases h with
  | plain visible unquoted unescaped =>
      rw [List.singleton_append, basic, if_neg unquoted, if_neg unescaped, if_pos visible]
  | escaped cs reads =>
      rw [List.cons_append, basic, if_neg (by decide), if_pos rfl]
      exact reads.basic_eq rest

theorem written_basic (c : Char) :
    Written c (if c = '"' then ['\\', '"'] else if c = '\n' then ['\\', 'n'] else escape c) := by
  split_ifs with hquote hnewline
  · exact .escaped _ (.last (by rw [hquote]; rfl))
  · exact .escaped _ (.last (by rw [hnewline]; rfl))
  · exact written_escape hquote hnewline

theorem basic_writeBasic (text rest : List Char) :
    basic none (writeBasic text ++ '"' :: rest) = some (text, rest) := by
  induction text with
  | nil => rfl
  | cons c text ih =>
      rw [writeBasic, List.flatMap_cons, List.append_assoc, (written_basic c).basic_eq]
      exact congrArg (prepend c) ih

theorem literal_self {text : List Char} (h : ∀ c ∈ text, isVisible c = true ∧ c ≠ '\'') (rest : List Char) :
    literal (text ++ '\'' :: rest) = some (text, rest) := by
  induction text with
  | nil => rfl
  | cons c text ih =>
      obtain ⟨hvisible, hquote⟩ := h c List.mem_cons_self
      rw [List.cons_append, literal, if_neg hquote, if_pos hvisible,
        ih fun d hd => h d (List.mem_cons_of_mem c hd)]
      rfl

/-! ### On several lines -/

/-- How many quotes a text begins with. -/
def leading (quote : Char) (text : List Char) : Nat :=
  (text.takeWhile (· = quote)).length

theorem leading_nil (quote : Char) : leading quote [] = 0 := rfl

theorem leading_cons (quote c : Char) (text : List Char) :
    leading quote (c :: text) = if c = quote then leading quote text + 1 else 0 := by
  by_cases hc : c = quote <;> simp [leading, hc]

theorem leading_cons_self (quote : Char) (text : List Char) :
    leading quote (quote :: text) = leading quote text + 1 := by
  rw [leading_cons, if_pos rfl]

theorem leading_cons_ne {quote c : Char} (h : c ≠ quote) (text : List Char) :
    leading quote (c :: text) = 0 := by
  rw [leading_cons, if_neg h]

theorem closing?_eq (quote : Char) (text : List Char) :
    closing? quote text = if leading quote text < 2 then none
      else some (min (leading quote text - 2) 2, text.drop (min (leading quote text - 2) 2 + 2)) :=
  rfl

/-- Up to two quotes before the closing ones belong to the string. -/
theorem closing?_replicate {quote : Char} {k : Nat} (hk : k ≤ 2) {rest : List Char}
    (hrest : leading quote rest = 0) :
    closing? quote (List.replicate k quote ++ quote :: quote :: rest) = some (k, rest) := by
  have hleading : ∀ n, leading quote (List.replicate n quote ++ quote :: quote :: rest) = n + 2 := by
    intro n
    induction n with
    | zero => rw [List.replicate_zero, List.nil_append, leading_cons_self, leading_cons_self, hrest]
    | succ n ih => rw [List.replicate_succ, List.cons_append, leading_cons_self, ih]
  have hdrop : (List.replicate k quote ++ quote :: quote :: rest).drop (k + 2) = rest := by
    rw [List.drop_append, List.length_replicate, Nat.add_sub_cancel_left, List.drop_of_length_le (by simp)]
    rfl
  rw [closing?_eq, hleading, if_neg (by omega), show min (k + 2 - 2) 2 = k by omega, hdrop]

/-- After a quote of the string comes at most one more before the closing ones, or else the string goes on. -/
theorem closing?_cases {quote : Char} {body rest : List Char} (short : leading quote body ≤ 1)
    (hrest : leading quote rest = 0) :
    (∃ k, body = List.replicate k quote ∧
      closing? quote (body ++ quote :: quote :: quote :: rest) = some (k + 1, rest)) ∨
    closing? quote (body ++ quote :: quote :: quote :: rest) = none := by
  have goes_on : ∀ text, leading quote text < 2 → closing? quote text = none := by
    intro text htext
    rw [closing?_eq, if_pos htext]
  match body with
  | [] => exact Or.inl ⟨0, rfl, closing?_replicate (k := 1) (by decide) hrest⟩
  | [c] =>
      by_cases hc : c = quote
      · subst hc
        exact Or.inl ⟨1, rfl, closing?_replicate (k := 2) (by decide) hrest⟩
      · refine Or.inr (goes_on _ ?_)
        rw [List.cons_append, leading_cons_ne hc]
        decide
  | c :: d :: body =>
      refine Or.inr (goes_on _ ?_)
      by_cases hc : c = quote
      · by_cases hd : d = quote
        · rw [hc, hd, leading_cons_self, leading_cons_self] at short
          omega
        · rw [hc, List.cons_append, leading_cons_self, List.cons_append, leading_cons_ne hd]
          decide
      · rw [List.cons_append, leading_cons_ne hc]
        decide

theorem Escape.step_started {c : Char} {progress : Progress} (h : Escape.started.step c = some progress) :
    isBlank c = false ∧ c ≠ '\n' := by
  constructor
  · by_contra hblank
    rcases eq_of_isBlank (Bool.not_eq_false _ ▸ hblank) with rfl | rfl <;> cases h
  · rintro rfl
    cases h

theorem basicBlock_step {escape : Escape} {c : Char} {progress : Progress}
    (h : escape.step c = some progress) (rest : List Char) :
    basicBlock (.escape escape) (c :: rest) =
      match escape.step c with
      | none => none
      | some (.more next) => basicBlock (.escape next) rest
      | some (.char d) => prepend d (basicBlock (.text false) rest) := by
  by_cases hstarted : escape = .started
  · subst hstarted
    obtain ⟨hblank, hnewline⟩ := Escape.step_started h
    rw [basicBlock, hblank, decide_eq_false hnewline]
    rfl
  · rw [basicBlock, decide_eq_false hstarted]
    rfl

theorem Escape.Reads.basicBlock_eq {escape : Escape} {cs : List Char} {d : Char} (h : escape.Reads cs d)
    (rest : List Char) :
    basicBlock (.escape escape) (cs ++ rest) = prepend d (basicBlock (.text false) rest) := by
  induction h with
  | last step => rw [List.singleton_append, basicBlock_step step, step]
  | more step _ ih =>
      rw [List.cons_append, basicBlock_step step, step]
      exact ih

theorem Written.basicBlock_eq {c : Char} {text : List Char} (h : Written c text) (rest : List Char) :
    basicBlock (.text false) (text ++ rest) = prepend c (basicBlock (.text false) rest) := by
  cases h with
  | plain visible unquoted unescaped =>
      rw [List.singleton_append, basicBlock, if_neg unquoted, if_neg unescaped, visible, Bool.or_true]
      rfl
  | escaped cs reads =>
      rw [List.cons_append, basicBlock, if_neg (by decide), if_pos rfl]
      exact reads.basicBlock_eq rest

/-- After `run` quotes, a written string begins with as many quotes as make up two, at the most. -/
theorem leading_writeBlock {run : Nat} (hrun : run ≤ 2) (text : List Char) :
    leading '"' (writeBlock run text) ≤ 2 - run := by
  induction text generalizing run with
  | nil => exact Nat.zero_le _
  | cons c text ih =>
      rw [writeBlock]
      split_ifs with hquote hfull hnewline
      · rw [leading_cons_ne (by decide)]
        exact Nat.zero_le _
      · rw [leading_cons_self]
        have hnext : leading '"' (writeBlock (run + 1) text) ≤ 2 - (run + 1) := ih (by omega)
        omega
      · rw [leading_cons_ne (by decide)]
        exact Nat.zero_le _
      · obtain ⟨first, rest, hwritten, hfirst, -⟩ := (written_escape hquote hnewline).head
        rw [hwritten, List.cons_append, leading_cons_ne hfirst]
        exact Nat.zero_le _

theorem eq_replicate_of_writeBlock {run k : Nat} {text : List Char}
    (h : writeBlock run text = List.replicate k '"') : text = List.replicate k '"' := by
  induction text generalizing run k with
  | nil => exact h
  | cons c text ih =>
      cases k with
      | zero =>
          rw [writeBlock] at h
          split_ifs at h with hquote hfull hnewline
          · cases h
          · cases h
          · cases h
          · obtain ⟨first, rest, hwritten, -⟩ := (written_escape hquote hnewline).head
            rw [hwritten] at h
            cases h
      | succ k =>
          rw [writeBlock, List.replicate_succ] at h
          split_ifs at h with hquote hfull hnewline
          · cases (List.cons.inj h).1
          · rw [hquote, ih (List.cons.inj h).2, List.replicate_succ]
          · cases (List.cons.inj h).1
          · obtain ⟨first, rest, hwritten, hfirst, -⟩ := (written_escape hquote hnewline).head
            rw [hwritten] at h
            exact absurd (List.cons.inj h).1 hfirst

theorem basicBlock_writeBlock {run : Nat} (hrun : run ≤ 2) (text : List Char) {rest : List Char}
    (hrest : leading '"' rest = 0) :
    basicBlock (.text false) (writeBlock run text ++ '"' :: '"' :: '"' :: rest) = some (text, rest) := by
  induction text generalizing run with
  | nil =>
      have hclosing : closing? '"' ('"' :: '"' :: rest) = some (0, rest) :=
        closing?_replicate (Nat.zero_le 2) hrest
      rw [writeBlock, List.nil_append, basicBlock, if_pos rfl, hclosing]
      rfl
  | cons c text ih =>
      rw [writeBlock]
      split_ifs with hquote hfull hnewline
      · have hwritten : Written c ['\\', '"'] := .escaped _ (.last (by rw [hquote]; rfl))
        have hnext := hwritten.basicBlock_eq (writeBlock 0 text ++ '"' :: '"' :: '"' :: rest)
        rw [ih (by decide)] at hnext
        exact hnext
      · subst hquote
        have hnext : leading '"' (writeBlock (run + 1) text) ≤ 1 :=
          (leading_writeBlock (by omega) text).trans (by omega)
        rw [List.cons_append, basicBlock, if_pos rfl]
        -- either the string ends in this quote and those after it, or it goes on
        rcases closing?_cases hnext hrest with ⟨k, hbody, hclosing⟩ | hclosing
        · rw [hclosing, eq_replicate_of_writeBlock hbody]
          rfl
        · rw [hclosing, ih (by omega)]
          rfl
      · subst hnewline
        rw [List.cons_append, basicBlock, if_neg (by decide), if_neg (by decide), ih (by decide)]
        rfl
      · rw [List.append_assoc, (written_escape hquote hnewline).basicBlock_eq, ih (by decide)]
        rfl

theorem leading_le_of_not_hasThree {quote : Char} {text : List Char} (h : hasThree quote text = false) :
    leading quote text ≤ 2 := by
  match text with
  | [] => exact Nat.zero_le 2
  | [c] =>
      rw [leading_cons, leading_nil]
      split_ifs <;> omega
  | [c, d] =>
      rw [leading_cons, leading_cons, leading_nil]
      split_ifs <;> omega
  | c :: d :: e :: text =>
      rw [leading_cons, leading_cons, leading_cons]
      split_ifs with hc hd he
      · rw [hc, hd, he] at h
        simp [hasThree] at h
      all_goals omega

theorem literalBlock_self {text : List Char} (hvisible : ∀ c ∈ text, c = '\n' ∨ isVisible c = true)
    (hthree : hasThree '\'' text = false) {rest : List Char} (hrest : leading '\'' rest = 0) :
    literalBlock (text ++ '\'' :: '\'' :: '\'' :: rest) = some (text, rest) := by
  induction text with
  | nil =>
      have hclosing : closing? '\'' ('\'' :: '\'' :: rest) = some (0, rest) :=
        closing?_replicate (Nat.zero_le 2) hrest
      rw [List.nil_append, literalBlock, if_pos rfl, hclosing]
      rfl
  | cons c text ih =>
      have hlater := ih (fun d hd => hvisible d (List.mem_cons_of_mem c hd))
        (Bool.or_eq_false_iff.mp hthree).2
      rw [List.cons_append, literalBlock]
      by_cases hquote : c = '\''
      · subst hquote
        have hleading := leading_le_of_not_hasThree hthree
        rw [leading_cons_self] at hleading
        rw [if_pos rfl]
        rcases closing?_cases (Nat.le_of_succ_le_succ hleading) hrest with ⟨k, hbody, hclosing⟩ | hclosing
        · rw [hclosing, hbody]
          rfl
        · rw [hclosing, hlater]
          rfl
      · have hplain : (decide (c = '\n') || isVisible c) = true := by
          rw [Bool.or_eq_true, decide_eq_true_eq]
          exact hvisible c List.mem_cons_self
        rw [if_neg hquote, if_pos hplain, hlater]
        rfl

/-- The newline that a reader drops is the one that was written for it. -/
theorem dropNewline_lead (text : List Char) {body : List Char}
    (h : text.contains '\n' = false → body.head? ≠ some '\n') : dropNewline (lead text ++ body) = body := by
  rw [lead]
  split_ifs with hnewline
  · rfl
  · rw [List.nil_append]
    match body with
    | [] => rfl
    | c :: rest =>
        have hc : c ≠ '\n' := fun hc => h (Bool.not_eq_true _ ▸ hnewline) (by rw [hc]; rfl)
        unfold dropNewline
        split
        · next heq => exact absurd (List.cons.inj heq).1 hc
        · rfl

theorem head?_writeBlock_ne {run : Nat} {text : List Char} (h : text.contains '\n' = false)
    (rest : List Char) : (writeBlock run text ++ '"' :: rest).head? ≠ some '\n' := by
  match text with
  | [] => exact (by decide : some '"' ≠ some '\n')
  | c :: text =>
      rw [writeBlock]
      split_ifs with hquote hfull hnewline
      · exact (by decide : some '\\' ≠ some '\n')
      · exact (by decide : some '"' ≠ some '\n')
      · rw [hnewline] at h
        simp at h
      · obtain ⟨first, others, hwritten, -, hfirst⟩ := (written_escape hquote hnewline).head
        rw [hwritten]
        exact fun heq => hfirst (Option.some.inj heq)

/-- What the form between single quotes was chosen for. -/
theorem visible_of_literal {text : List Char} (h : of text = .literal) :
    ∀ c ∈ text, isVisible c = true ∧ c ≠ '\'' := by
  intro c hc
  simp only [of] at h
  split_ifs at h with hbasic hliteral
  simp only [Bool.and_eq_true, Bool.not_eq_true', List.any_eq_false, List.contains_eq_mem,
    decide_eq_false_iff_not] at hliteral
  obtain ⟨⟨hcontrol, hnewline⟩, hquote⟩ := hliteral
  refine ⟨?_, ne_of_mem_of_not_mem hc hquote⟩
  rcases isVisible_of_not_isControl (Bool.not_eq_true _ ▸ hcontrol c hc) with rfl | hvisible
  · exact absurd hc hnewline
  · exact hvisible

/-- What the form between three single quotes was chosen for. -/
theorem visible_of_literalBlock {text : List Char} (h : of text = .literalBlock) :
    (∀ c ∈ text, c = '\n' ∨ isVisible c = true) ∧ hasThree '\'' text = false := by
  simp only [of] at h
  split_ifs at h with hbasic hliteral hblock hthree
  simp only [Bool.and_eq_true, Bool.not_eq_true', List.any_eq_false] at hthree
  exact ⟨fun c hc => isVisible_of_not_isControl (Bool.not_eq_true _ ▸ hthree.1 c hc), hthree.2⟩

end Quote

/-! ### Strings as they are written -/

open QuoteForm Quote

theorem quotedString?_double {text : List Char} (h : ∀ rest, text ≠ '"' :: '"' :: rest) :
    quotedString? ('"' :: text) = Quote.basic none text := by
  unfold quotedString?
  split
  · next heq => exact absurd (List.cons.inj heq).2 (h _)
  · next heq => rw [(List.cons.inj heq).2]
  · next heq => cases (List.cons.inj heq).1
  · next heq => cases (List.cons.inj heq).1
  · next hdouble _ _ => exact absurd rfl (hdouble text)

theorem quotedString?_single {text : List Char} (h : ∀ rest, text ≠ '\'' :: '\'' :: rest) :
    quotedString? ('\'' :: text) = Quote.literal text := by
  unfold quotedString?
  split
  · next heq => cases (List.cons.inj heq).1
  · next heq => cases (List.cons.inj heq).1
  · next heq => exact absurd (List.cons.inj heq).2 (h _)
  · next heq => rw [(List.cons.inj heq).2]
  · next hsingle => exact absurd rfl (hsingle text)

theorem quotedString?_basic (text rest : List Char) :
    quotedString? (QuoteForm.basic.write text ++ '\n' :: rest) = some (text, '\n' :: rest) := by
  have hread := basic_writeBasic text ('\n' :: rest)
  rw [← hread, QuoteForm.write, List.append_assoc, List.append_assoc]
  refine quotedString?_double fun others heq => ?_
  match text with
  | [] => cases (List.cons.inj (List.cons.inj heq).2).1
  | c :: text =>
      obtain ⟨first, tail, hwritten, hfirst, -⟩ := (written_basic c).head
      rw [writeBasic, List.flatMap_cons, hwritten] at heq
      exact hfirst (List.cons.inj heq).1

theorem quotedString?_literal {text : List Char} (h : ∀ c ∈ text, isVisible c = true ∧ c ≠ '\'')
    (rest : List Char) :
    quotedString? (QuoteForm.literal.write text ++ '\n' :: rest) = some (text, '\n' :: rest) := by
  have hread := literal_self h ('\n' :: rest)
  rw [← hread, QuoteForm.write, List.append_assoc, List.append_assoc]
  refine quotedString?_single fun others heq => ?_
  match text with
  | [] => cases (List.cons.inj (List.cons.inj heq).2).1
  | c :: text => exact (h c List.mem_cons_self).2 (List.cons.inj heq).1

theorem quotedString?_basicBlock (text rest : List Char) :
    quotedString? (QuoteForm.basicBlock.write text ++ '\n' :: rest) = some (text, '\n' :: rest) := by
  have hread := basicBlock_writeBlock (Nat.zero_le 2) text
    (leading_cons_ne (by decide : '\n' ≠ '"') rest)
  rw [← hread, ← dropNewline_lead text fun h => head?_writeBlock_ne h _, QuoteForm.write,
    List.append_assoc, List.append_assoc, List.append_assoc]
  rfl

theorem quotedString?_literalBlock {text : List Char} (h : ∀ c ∈ text, c = '\n' ∨ isVisible c = true)
    (hthree : hasThree '\'' text = false) (rest : List Char) :
    quotedString? (QuoteForm.literalBlock.write text ++ '\n' :: rest) = some (text, '\n' :: rest) := by
  have hread := literalBlock_self h hthree (leading_cons_ne (by decide : '\n' ≠ '\'') rest)
  have hbody : text.contains '\n' = false →
      (text ++ '\'' :: '\'' :: '\'' :: '\n' :: rest).head? ≠ some '\n' := by
    intro hnewline heq
    match text with
    | [] => exact absurd (Option.some.inj heq) (by decide : '\'' ≠ '\n')
    | c :: text =>
        rw [Option.some.inj heq] at hnewline
        simp at hnewline
  rw [← hread, ← dropNewline_lead text hbody, QuoteForm.write, List.append_assoc, List.append_assoc,
    List.append_assoc]
  rfl

/-- A string as it is written reads as itself, and nothing more is read. -/
theorem quotedString?_quote (s : String) (rest : List Char) :
    quotedString? (quote s ++ '\n' :: rest) = some (s.toList, '\n' :: rest) := by
  rw [quote]
  cases hform : QuoteForm.of s.toList with
  | basic => exact quotedString?_basic s.toList rest
  | literal => exact quotedString?_literal (visible_of_literal hform) rest
  | basicBlock => exact quotedString?_basicBlock s.toList rest
  | literalBlock =>
      obtain ⟨hvisible, hthree⟩ := visible_of_literalBlock hform
      exact quotedString?_literalBlock hvisible hthree rest

theorem return_not_mem_writeBlock (run : Nat) (text : List Char) : '\r' ∉ writeBlock run text := by
  induction text generalizing run with
  | nil => exact List.not_mem_nil
  | cons c text ih =>
      rw [writeBlock]
      split_ifs with hquote hfull hnewline
      · simp [ih]
      · simp [ih]
      · simp [ih]
      · rw [List.mem_append, not_or]
        exact ⟨(written_escape hquote hnewline).not_return, ih 0⟩

theorem return_not_mem_writeBasic (text : List Char) : '\r' ∉ writeBasic text := by
  rw [writeBasic, List.mem_flatMap]
  rintro ⟨c, -, hc⟩
  exact (written_basic c).not_return hc

/-- No carriage return stands in a string as it is written, so the reader's view of line ends spares it. -/
theorem return_not_mem_quote (s : String) : '\r' ∉ quote s := by
  have hlead : '\r' ∉ lead s.toList := by
    rw [lead]
    split_ifs <;> simp
  rw [quote]
  cases hform : QuoteForm.of s.toList with
  | basic => simp [QuoteForm.write, return_not_mem_writeBasic]
  | literal =>
      have hvisible : '\r' ∉ s.toList := fun h => ne_of_test (visible_of_literal hform _ h).1 rfl rfl
      simp [QuoteForm.write, hvisible]
  | basicBlock => simp [QuoteForm.write, hlead, return_not_mem_writeBlock]
  | literalBlock =>
      have hvisible : '\r' ∉ s.toList := by
        intro h
        rcases (visible_of_literalBlock hform).1 _ h with hnewline | hvisible
        · exact absurd hnewline (by decide)
        · exact ne_of_test hvisible rfl rfl
      simp [QuoteForm.write, hlead, hvisible]

end ScreenKeyboard.Toml
