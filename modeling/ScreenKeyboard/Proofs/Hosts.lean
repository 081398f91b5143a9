import Mathlib.Data.List.TakeWhile
import Mathlib.Tactic.SplitIfs
import ScreenKeyboard.Proofs.Forms
import ScreenKeyboard.Url.Reading

/-!
No host has a colon in its name. A colon lasts through all that is done to the text of a host: it is no part
of an escape, its byte is a character of its own, no mapping changes it and nothing composes with it; and a
label that holds one is refused (`toAscii?_of_colon`). So only an address in brackets is read from a text
with a colon (`readHost_of_colon`).
-/

namespace ScreenKeyboard

namespace Text

/-- What a list is turned into, one element at a time, has an element for each. -/
theorem exists_of_mem_of_mapM {α β : Type} {f : α → Option β} {list : List α} {values : List β} {a : α}
    (hvalues : list.mapM f = some values) (ha : a ∈ list) : ∃ value ∈ values, f a = some value := by
  induction list generalizing values with
  | nil => cases ha
  | cons first rest ih =>
      simp only [List.mapM_cons, Option.pure_def, Option.bind_eq_bind, Option.bind_eq_some_iff,
        Option.some.injEq] at hvalues
      obtain ⟨value, hvalue, others, hothers, rfl⟩ := hvalues
      rcases List.mem_cons.mp ha with rfl | hrest
      · exact ⟨value, List.mem_cons_self, hvalue⟩
      · obtain ⟨other, hmem, hother⟩ := ih hothers hrest
        exact ⟨other, List.mem_cons_of_mem _ hmem, hother⟩

/-- A text is what comes before the last of its marks, that mark, and what comes after it. -/
theorem take_append_after_last {mark : Char} {text : List Char} (h : mark ∈ text) :
    text.take (text.length - (text.reverse.takeWhile (· ≠ mark)).reverse.length - 1) ++
      mark :: (text.reverse.takeWhile (· ≠ mark)).reverse = text := by
  cases hrest : text.reverse.dropWhile (· ≠ mark) with
  | nil =>
      have hne := List.dropWhile_eq_nil_iff.mp hrest mark (List.mem_reverse.mpr h)
      exact absurd rfl (of_decide_eq_true hne)
  | cons d before =>
      have hd : ¬decide (d ≠ mark) = true := by
        have hhead := List.head?_dropWhile_not (· ≠ mark) text.reverse
        rw [hrest] at hhead
        simpa using hhead
      obtain rfl : d = mark := by simpa using hd
      have hreverse := List.takeWhile_append_dropWhile (p := (· ≠ d)) (l := text.reverse)
      rw [hrest] at hreverse
      have htext : before.reverse ++ d :: (text.reverse.takeWhile (· ≠ d)).reverse = text := by
        have hback := congrArg List.reverse hreverse
        simpa using hback
      have hlength := congrArg List.length htext
      rw [List.length_append, List.length_cons] at hlength
      have hcount : text.length - (text.reverse.takeWhile (· ≠ d)).reverse.length - 1 =
          before.reverse.length := by omega
      have htake : text.take before.reverse.length = before.reverse := by
        calc text.take before.reverse.length
            = (before.reverse ++ d :: (text.reverse.takeWhile (· ≠ d)).reverse).take before.reverse.length := by
              rw [htext]
          _ = before.reverse := List.take_left
      rw [hcount, htake, htext]

namespace Utf8

/-- A byte that continues a character is none of ASCII. -/
theorem le_of_mem_followed {code low high owed : Nat} (hlow : 0x80 ≤ low) {bytes : Bytes} {b : UInt8}
    (h : b ∈ bytes.take (follow code low high owed bytes).2) : 0x80 ≤ b.toNat := by
  induction owed generalizing code low high bytes with
  | zero =>
      rw [follow, List.take_zero] at h
      cases h
  | succ owed ih =>
      cases bytes with
      | nil =>
          rw [List.take_nil] at h
          cases h
      | cons d rest =>
          rw [follow] at h
          split_ifs at h with hbounds
          · rw [List.take_succ_cons] at h
            rcases List.mem_cons.mp h with rfl | hrest
            · exact Nat.le_trans hlow hbounds.1
            · exact ih (Nat.le_refl _) hrest
          · rw [List.take_zero] at h
            cases h

theorem lead?_low {b owed code low high : Nat} (h : lead? b = some (owed, code, low, high)) (howed : owed ≠ 0) :
    0x80 ≤ low := by
  unfold lead? at h
  split_ifs at h <;> simp only [Option.some.injEq, Prod.mk.injEq] at h <;> omega

/-- An ASCII byte spells its character wherever it stands. -/
theorem mem_scan_of_ascii {c : Char} (hascii : c.toNat < 0x80) {bytes : Bytes} (h : c.toNat.toUInt8 ∈ bytes) :
    some c ∈ scan bytes := by
  have hbyte : c.toNat.toUInt8.toNat = c.toNat := toNat_toUInt8 (by omega)
  fun_induction scan bytes with
  | case1 => cases h
  | case2 b rest hlead ih =>
      refine List.mem_cons_of_mem _ (ih ?_)
      rcases List.mem_cons.mp h with rfl | hrest
      · rw [hbyte, lead?_one hascii] at hlead
        cases hlead
      · exact hrest
  | case3 b rest owed code low high hlead d read hfollow ih =>
      rcases List.mem_cons.mp h with rfl | hrest
      · rw [hbyte, lead?_one hascii] at hlead
        cases hlead
        rw [follow, Prod.mk.injEq] at hfollow
        rw [← hfollow.1, Char.ofNat_toNat]
        exact List.mem_cons_self
      · refine List.mem_cons_of_mem _ (ih ?_)
        rw [← List.take_append_drop read rest] at hrest
        rcases List.mem_append.mp hrest with htaken | hleft
        · have howed : owed ≠ 0 := by
            rintro rfl
            rw [follow, Prod.mk.injEq] at hfollow
            rw [← hfollow.2, List.take_zero] at htaken
            cases htaken
          have hread : (follow code low high owed rest).2 = read := by rw [hfollow]
          have hle := le_of_mem_followed (lead?_low hlead howed) (hread ▸ htaken)
          omega
        · exact hleft

theorem mem_of_decode? {c : Char} (hascii : c.toNat < 0x80) {bytes : Bytes} {text : List Char}
    (h : decode? bytes = some text) (hc : c.toNat.toUInt8 ∈ bytes) : c ∈ text := by
  obtain ⟨d, hd, heq⟩ := exists_of_mem_of_mapM h (mem_scan_of_ascii hascii hc)
  exact Option.some.inj heq ▸ hd

end Utf8

/-! ### Composition -/

namespace Composition

theorem mem_place {c d : Char} {text : List Char} : c ∈ place d text ↔ c = d ∨ c ∈ text := by
  induction text with
  | nil => simp [place]
  | cons first rest ih =>
      rw [place]
      split_ifs
      · rw [List.mem_cons, ih, List.mem_cons]
        exact or_left_comm
      · exact List.mem_cons

theorem mem_order {c : Char} {text : List Char} : c ∈ order text ↔ c ∈ text := by
  induction text with
  | nil => exact Iff.rfl
  | cons d rest ih =>
      show c ∈ place d (order rest) ↔ _
      rw [mem_place, ih, List.mem_cons]

/-- That a character takes no part in any composition. -/
structure Inert (c : Char) : Prop where
  not_base : ∀ mark, pair? c mark = none
  not_mark : ∀ base, pair? base c = none

theorem Inert.mem_composeOnto {c : Char} (h : Inert c) {base : Char} {marks : List Char} {last : Nat}
    {text : List Char} (hc : c = base ∨ c ∈ marks ∨ c ∈ text) : c ∈ composeOnto base marks last text := by
  induction text generalizing base marks last with
  | nil => simpa [composeOnto] using hc
  | cons d rest ih =>
      rw [composeOnto]
      split
      · next joined hjoined =>
          split_ifs at hjoined
          apply ih
          rcases hc with rfl | hmarks | hrest
          · rw [h.not_base] at hjoined
            cases hjoined
          · exact Or.inr (Or.inl hmarks)
          · rcases List.mem_cons.mp hrest with rfl | hrest
            · rw [h.not_mark] at hjoined
              cases hjoined
            · exact Or.inr (Or.inr hrest)
      · split_ifs
        · rw [List.mem_append, List.mem_cons]
          rcases hc with hbase | hmarks | hrest
          · exact Or.inl (Or.inl hbase)
          · exact Or.inl (Or.inr hmarks)
          · rcases List.mem_cons.mp hrest with hd | hrest
            · exact Or.inr (ih (Or.inl hd))
            · exact Or.inr (ih (Or.inr (Or.inr hrest)))
        · apply ih
          rw [List.mem_append, List.mem_singleton]
          rcases hc with hbase | hmarks | hrest
          · exact Or.inl hbase
          · exact Or.inr (Or.inl (Or.inl hmarks))
          · rcases List.mem_cons.mp hrest with hd | hrest
            · exact Or.inr (Or.inl (Or.inr hd))
            · exact Or.inr (Or.inr hrest)

theorem Inert.mem_compose {c : Char} (h : Inert c) {text : List Char} (hc : c ∈ text) : c ∈ compose text := by
  induction text with
  | nil => cases hc
  | cons d rest ih =>
      rw [compose]
      split_ifs
      · exact h.mem_composeOnto ((List.mem_cons.mp hc).imp_right Or.inr)
      · rcases List.mem_cons.mp hc with hd | hrest
        · exact hd ▸ List.mem_cons_self
        · exact List.mem_cons_of_mem _ (ih hrest)

/-- Characters below the first that takes a mark take part in no composition. -/
theorem inert_of_lt {c : Char} (h : c.toNat < leastBase) : Inert c where
  not_base := fun mark => by
    simp only [pair?]
    rw [if_pos (Or.inl h)]
  not_mark := fun base => by
    simp only [pair?]
    rw [if_pos (Or.inr (Nat.lt_trans h (by decide)))]

theorem decompose_of_lt {c : Char} (h : c.toNat < leastComposed) : decompose c = [c] := by
  simp only [decompose]
  rw [if_pos h]

end Composition

theorem mem_composedForm {c : Char} (h : c.toNat < Composition.leastBase) {text : List Char} (hc : c ∈ text) :
    c ∈ composedForm text := by
  rw [composedForm]
  split_ifs
  · exact hc
  · apply (Composition.inert_of_lt h).mem_compose
    rw [Composition.mem_order, List.mem_flatMap]
    refine ⟨c, hc, ?_⟩
    rw [Composition.decompose_of_lt (Nat.lt_trans h (by decide))]
    exact List.mem_cons_self

end Text

namespace Url

open Text

/-- A byte that has no part in an escape is decoded to itself. -/
theorem Percent.mem_decode {b : UInt8} (hdigit : hexValue? b = none) (hmark : b ≠ 0x25) {bytes : Utf8.Bytes}
    (h : b ∈ bytes) : b ∈ decode bytes := by
  fun_induction decode bytes with
  | case1 => cases h
  | case2 d rest value hvalue ih =>
      split_ifs at hvalue with hd
      rcases List.mem_cons.mp h with rfl | hrest
      · exact absurd hd hmark
      · rw [← List.take_append_drop 2 rest] at hrest
        rcases List.mem_append.mp hrest with hdigits | hleft
        · unfold escaped? at hvalue
          split at hvalue
          · next high low tail =>
              split at hvalue
              · next hhigh hlow =>
                  simp only [List.take_succ_cons, List.take_zero, List.mem_cons, List.not_mem_nil,
                    or_false] at hdigits
                  rcases hdigits with rfl | rfl
                  · rw [hdigit] at hhigh
                    cases hhigh
                  · rw [hdigit] at hlow
                    cases hlow
              · cases hvalue
          · cases hvalue
        · exact List.mem_cons_of_mem _ (ih hleft)
  | case3 d rest hvalue ih =>
      rcases List.mem_cons.mp h with rfl | hrest
      · exact List.mem_cons_self
      · exact List.mem_cons_of_mem _ (ih hrest)

namespace Domain

namespace Punycode

/-- Digits are decoded to a text that holds all that was read before, and nothing else is decoded. -/
theorem readDigits_spec {r : Reading} {text out : List Char} (h : readDigits r text = some out) :
    (∀ c ∈ r.out, c ∈ out) ∧ ∀ c ∈ text, (digitValue? c).isSome = true := by
  induction text generalizing r with
  | nil =>
      rw [readDigits] at h
      split_ifs at h
      exact ⟨fun c hc => Option.some.inj h ▸ hc, fun c hc => absurd hc List.not_mem_nil⟩
  | cons d rest ih =>
      rw [readDigits] at h
      cases hd : digitValue? d with
      | none =>
          rw [hd] at h
          cases h
      | some value =>
          have hdigits : (∀ c ∈ rest, (digitValue? c).isSome = true) →
              ∀ c ∈ d :: rest, (digitValue? c).isSome = true := by
            intro hrest c hc
            rcases List.mem_cons.mp hc with rfl | hc
            · rw [hd]
              rfl
            · exact hrest c hc
          simp only [hd] at h
          split_ifs at h
          · exact ⟨(ih h).1, hdigits (ih h).2⟩
          · refine ⟨fun c hc => (ih h).1 c ?_, hdigits (ih h).2⟩
            exact (List.mem_insertIdx (Nat.le_of_lt_succ (Nat.mod_lt _ (Nat.succ_pos _)))).mpr (Or.inr hc)

theorem mem_of_decode? {c : Char} (hdigit : digitValue? c = none) (hhyphen : c ≠ '-') {text out : List Char}
    (h : decode? text = some out) (hc : c ∈ text) : c ∈ out := by
  simp only [decode?] at h
  split_ifs at h with hascii hbasic
  · have hvalue := (readDigits_spec h).2 c hc
    rw [hdigit] at hvalue
    cases hvalue
  · obtain ⟨hkept, hdigits⟩ := readDigits_spec h
    by_cases hmark : '-' ∈ text
    · rw [← take_append_after_last hmark] at hc
      rcases List.mem_append.mp hc with hbefore | hafter
      · exact hkept c hbefore
      · have hvalue := hdigits c ((List.mem_cons.mp hafter).resolve_left hhyphen)
        rw [hdigit] at hvalue
        cases hvalue
    · -- without a hyphen nothing is given as it is
      refine absurd ?_ hbasic
      have hall : text.reverse.takeWhile (· ≠ '-') = text.reverse :=
        List.takeWhile_eq_self_iff.mpr fun d hd =>
          decide_eq_true fun heq => hmark (heq ▸ List.mem_reverse.mp hd)
      rw [hall, List.reverse_reverse, Nat.sub_self]
      rfl

end Punycode

/-- A label that holds a colon still does when it has been read. -/
theorem colon_mem_of_readLabel? {label read : List Char} (h : readLabel? label = some read)
    (hcolon : ':' ∈ label) : ':' ∈ read := by
  simp only [readLabel?] at h
  split_ifs at h with hencoded
  · split at h
    · next decoded hdecoded =>
        split_ifs at h
        obtain rfl := Option.some.inj h
        refine Punycode.mem_of_decode? rfl (by decide) hdecoded ?_
        obtain ⟨code, rfl⟩ := List.isPrefixOf_iff_prefix.mp hencoded
        rw [List.drop_left]
        refine (List.mem_append.mp hcolon).resolve_left ?_
        decide
    · cases h
  · exact Option.some.inj h ▸ hcolon

theorem toAscii?_of_colon {name : List Char} (h : ':' ∈ name) : toAscii? name = none := by
  cases hmapped : map? name with
  | none => rw [toAscii?, hmapped]; rfl
  | some mapped =>
      have hmem : ':' ∈ mapped := by
        obtain ⟨parts, hparts, rfl⟩ := Option.map_eq_some_iff.mp hmapped
        obtain ⟨part, hpart, hcolon⟩ := exists_of_mem_of_mapM hparts h
        obtain rfl : [':'] = part := Option.some.inj hcolon
        exact List.mem_flatten.mpr ⟨[':'], hpart, List.mem_singleton_self _⟩
      obtain ⟨label, hlabel, hcolon⟩ : ∃ label ∈ pieces '.' (composedForm mapped), ':' ∈ label :=
        exists_mem_pieces (by decide) (mem_composedForm (by decide) hmem)
      cases hlabels : (pieces '.' (composedForm mapped)).mapM readLabel? with
      | none => rw [toAscii?, hmapped, Option.bind_eq_bind, Option.bind_some, hlabels]; rfl
      | some labels =>
          obtain ⟨read, hread, hlabelRead⟩ := exists_of_mem_of_mapM hlabels hlabel
          have hforbidden : isAllowed read = false := by
            have hany : read.any isForbidden = true :=
              List.any_eq_true.mpr ⟨':', colon_mem_of_readLabel? hlabelRead hcolon, rfl⟩
            rw [isAllowed, hany]
            rfl
          have hall : labels.all isAllowed = false :=
            List.all_eq_false.mpr ⟨read, hread, by rw [hforbidden]; exact Bool.false_ne_true⟩
          rw [toAscii?, hmapped, Option.bind_eq_bind, Option.bind_some, hlabels, Option.bind_eq_bind,
            Option.bind_some, hall, Bool.false_and, if_neg Bool.false_ne_true]

end Domain

theorem readHost_of_colon {text : List Char} (h : ':' ∈ text) (hlast : text.getLast? ≠ some ']') (host : Host) :
    readHost text ≠ .ok host := by
  unfold readHost
  split
  · cases h
  · next inner =>
      have hinner : inner.getLast? ≠ some ']' := by
        intro hbracket
        refine hlast ?_
        rw [List.getLast?_cons, hbracket]
        rfl
      rw [if_neg hinner]
      exact fun herror => nomatch herror
  · have hnone : (Utf8.decode? (Percent.decode (Utf8.encode text))).bind Domain.toAscii? = none := by
      rw [Option.bind_eq_none_iff]
      intro decoded hdecoded
      refine Domain.toAscii?_of_colon (Utf8.mem_of_decode? (by decide) hdecoded ?_)
      refine Percent.mem_decode (by decide) (by decide) (List.mem_flatMap.mpr ⟨':', h, ?_⟩)
      decide
    rw [hnone]
    exact fun herror => nomatch herror

end Url

end ScreenKeyboard
