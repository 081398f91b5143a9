import Mathlib.Data.List.Chain
import Mathlib.Data.List.Sort
import ScreenKeyboard.Proofs.KeyNames

/-!
Capitals typed with shift. A capital names the key of its small letter, and this key types its name in upper case.
Most runs of lower case are the inverse of a run of upper case, so the way there and back ends where it began; the
runs that are not are few, and of their capitals six do not come back (`upper_lower`). What a capital types with
shift follows (`types_of_capital`).
-/

namespace ScreenKeyboard

namespace Text

namespace CodeRun

variable {run : CodeRun} {code image : Nat}

/-- The run ends before the other one begins. -/
def Before (run other : CodeRun) : Prop :=
  run.last < other.first ∧ other.first ≤ other.last

instance : DecidableRel Before := fun _ _ => inferInstanceAs (Decidable (_ ∧ _))

instance : Trans Before Before Before where
  trans h h' := ⟨h.1.trans (h.2.trans_lt h'.1), h'.2⟩

/-- Among ascending runs, a code point is found in each run that holds it. -/
theorem lookup?_of_mem {runs : List CodeRun} (ascending : runs.IsChain Before) (hrun : run ∈ runs)
    (himage : run.image? code = some image) : lookup? runs code = some image := by
  rw [List.isChain_iff_pairwise] at ascending
  induction runs with
  | nil => cases hrun
  | cons head rest ih =>
      obtain ⟨hbefore, hrest⟩ := List.pairwise_cons.mp ascending
      rw [lookup?, List.findSome?_cons]
      rcases List.mem_cons.mp hrun with rfl | hlater
      · rw [himage]
      · have hnone : head.image? code = none := by
          refine if_neg fun hinside => ?_
          have hgap := (hbefore run hlater).1
          have hfirst := (image?_eq_some_iff.mp himage).1.1
          omega
        rw [hnone]
        exact ih hrest hlater

/-- The run that leads back. -/
def inverse (run : CodeRun) : CodeRun :=
  ⟨run.target, run.target + (run.last - run.first), run.step, run.first⟩

theorem image?_of_inverse (hrange : run.first ≤ run.last) (h : run.inverse.image? code = some image) :
    run.image? image = some code := by
  obtain ⟨⟨hfirst, hlast, hstep⟩, himage⟩ := image?_eq_some_iff.mp h
  dsimp only [inverse] at hfirst hlast hstep himage
  have hoffset : image - run.first = code - run.target := by omega
  refine image?_eq_some_iff.mpr ⟨⟨by omega, by omega, ?_⟩, by omega⟩
  rwa [hoffset]

/-- How far the code points of the run are from its first. -/
def offsets (run : CodeRun) : List Nat :=
  (List.range (run.last - run.first + 1)).filter fun offset => offset % run.step = 0

theorem exists_offset (h : run.image? code = some image) :
    ∃ offset ∈ run.offsets, code = run.first + offset ∧ image = run.target + offset := by
  obtain ⟨⟨hfirst, hlast, hstep⟩, rfl⟩ := image?_eq_some_iff.mp h
  refine ⟨code - run.first, List.mem_filter.mpr ⟨List.mem_range.mpr (by omega), decide_eq_true hstep⟩, by omega, rfl⟩

end CodeRun

namespace Casing

variable {c : Char}

/-- Upper case gives characters, and never the one that it is given, and what it expands becomes several. -/
theorem upper_tables : upperRuns.IsChain CodeRun.Before ∧
    (∀ run ∈ upperRuns, run.first ≤ run.last ∧ run.target ≠ run.first ∧ run.Valid) ∧
    ∀ entry ∈ upperExpansions, entry.2.length ≠ 1 := by
  decide +kernel

/-- A character that is its own upper case stands in neither of the tables. -/
theorem unmapped_of_upper_eq (h : upper c = [c]) :
    CodeRun.lookup? upperRuns c.toNat = none ∧ upperExpansions.lookup c.toNat = none := by
  unfold upper map at h
  cases hrun : CodeRun.lookup? upperRuns c.toNat with
  | some code =>
      rw [hrun] at h
      obtain ⟨run, hmem, himage⟩ := List.exists_of_findSome?_eq_some hrun
      obtain ⟨⟨hfirst, hlast, -⟩, hcode⟩ := CodeRun.image?_eq_some_iff.mp himage
      obtain ⟨-, hmoves, hvalid⟩ := upper_tables.2.1 run hmem
      have hsame : code = c.toNat := by
        rw [← List.singleton_inj.mp h, hvalid.toNat_image himage]
      omega
  | none =>
      refine ⟨rfl, ?_⟩
      rw [hrun] at h
      cases hlong : upperExpansions.lookup c.toNat with
      | some codes =>
          rw [hlong] at h
          have hlength := congrArg List.length h
          rw [List.length_map, List.length_singleton] at hlength
          exact absurd hlength (upper_tables.2.2 _ (mem_of_lookup hlong))
      | none => rfl

/-- The runs of lower case that upper case does not lead back along: digraphs, which begin with a title case, small
letters that belong to several capitals, a capital that came after its small letter, and the Greek capitals that
are written out with an iota. -/
def oneWayRuns : List CodeRun :=
  [⟨453, 453, 1, 454⟩, ⟨456, 456, 1, 457⟩, ⟨459, 475, 2, 460⟩, ⟨498, 500, 2, 499⟩, ⟨1012, 1012, 1, 952⟩,
    ⟨7838, 7838, 1, 223⟩, ⟨8072, 8079, 1, 8064⟩, ⟨8088, 8095, 1, 8080⟩, ⟨8104, 8111, 1, 8096⟩,
    ⟨8124, 8124, 1, 8115⟩, ⟨8140, 8140, 1, 8131⟩, ⟨8188, 8188, 1, 8179⟩, ⟨8486, 8486, 1, 969⟩,
    ⟨8490, 8490, 1, 107⟩, ⟨8491, 8491, 1, 229⟩]

/-- In order, the inverses of upper case and the one-way runs pass by all runs of lower case. -/
theorem lowerRuns_sublist : lowerRuns.isSublist
    ((upperRuns.map CodeRun.inverse ++ oneWayRuns).insertionSort fun run other => run.first ≤ other.first) = true := by
  decide +kernel

theorem inverse_or_oneWay {run : CodeRun} (hrun : run ∈ lowerRuns) :
    (∃ back ∈ upperRuns, back.inverse = run) ∨ run ∈ oneWayRuns := by
  have hmem := (List.isSublist_iff_sublist.mp lowerRuns_sublist).subset hrun
  rwa [List.mem_insertionSort, List.mem_append, List.mem_map] at hmem

/-- The capitals that do not come back from their small letters, and what comes back instead: the dotted capital I,
the Greek theta symbol, the sharp S, and the signs for ohm, kelvin and ångström. -/
def strays : List (Char × List Char) :=
  [('\u0130', ['I', '\u0307']), ('\u03f4', ['\u0398']), ('\u1e9e', ['S', 'S']), ('\u2126', ['\u03a9']),
    ('\u212a', ['K']), ('\u212b', ['\u00c5'])]

theorem upper_lower_strays : ∀ stray ∈ strays, (lower stray.1).flatMap upper = stray.2 := by
  decide +kernel

/-- A code point of a one-way run is a stray, or upper case changes it, or it is the one of several that upper case
leads back to. -/
theorem oneWayRuns_stray : ∀ run ∈ oneWayRuns, ∀ offset ∈ run.offsets,
    (strays.any fun stray => stray.1 = Char.ofNat (run.first + offset)) = true ∨
      (upperExpansions.lookup (run.first + offset)).isSome = true ∨
        CodeRun.lookup? upperRuns (run.target + offset) = some (run.first + offset) ∨
          (CodeRun.lookup? upperRuns (run.first + offset)).isSome = true := by
  decide +kernel

/-- Upper case leads back along the runs of lower case, but for capitals that it changes and for strays. -/
theorem lookup?_of_lowerRun (hupper : upper c = [c]) (hstray : ∀ stray ∈ strays, stray.1 ≠ c) {run : CodeRun}
    (hrun : run ∈ lowerRuns) {code : Nat} (himage : run.image? c.toNat = some code) :
    CodeRun.lookup? upperRuns code = some c.toNat := by
  rcases inverse_or_oneWay hrun with ⟨back, hback, rfl⟩ | honeWay
  · exact CodeRun.lookup?_of_mem upper_tables.1 hback
      (CodeRun.image?_of_inverse (upper_tables.2.1 back hback).1 himage)
  · obtain ⟨hrest, hlong⟩ := unmapped_of_upper_eq hupper
    obtain ⟨offset, hoffset, hcode, rfl⟩ := CodeRun.exists_offset himage
    have hcases := oneWayRuns_stray run honeWay offset hoffset
    rw [← hcode, hlong, hrest, Char.ofNat_toNat] at hcases
    rcases hcases with hany | hnone | hback | hnone
    · obtain ⟨stray, hmem, heq⟩ := List.any_eq_true.mp hany
      exact absurd (of_decide_eq_true heq) (hstray stray hmem)
    · cases hnone
    · exact hback
    · cases hnone

/-- A capital comes back from its small letter, unless it is a stray. -/
theorem upper_lower (hlower : lower c ≠ [c]) (hupper : upper c = [c]) :
    (lower c).flatMap upper = (strays.lookup c).getD [c] := by
  cases hlookup : strays.lookup c with
  | some image => exact upper_lower_strays (c, image) (mem_of_lookup hlookup)
  | none =>
      have hstray : ∀ stray ∈ strays, stray.1 ≠ c := fun stray hmem =>
        (bne_iff_ne.mp (List.lookup_eq_none_iff.mp hlookup stray hmem)).symm
      have hmaps := maps_lower c
      rw [Option.getD_none]
      generalize lower c = image at hmaps hlower ⊢
      cases hmaps with
      | run mem image =>
          have hback := lookup?_of_lowerRun hupper hstray mem image
          rw [List.flatMap_singleton, upper, map, toNat_of_lowerRun mem image, hback]
          dsimp only
          rw [Char.ofNat_toNat]
      | expansion mem =>
          have hdotted : c.toNat = 304 := (Prod.mk.inj (List.mem_singleton.mp mem)).1
          refine absurd ?_ (hstray _ List.mem_cons_self)
          rw [← Char.ofNat_toNat c, hdotted]
      | same outside => exact absurd rfl hlower

end Casing

end Text

namespace Hardware

variable {key : String} {c k : Char}

theorem isLetter_of_small (h : 'a'.toNat ≤ k.toNat ∧ k.toNat ≤ 'z'.toNat) : Legend.isLetter k = true := by
  simp only [Legend.isLetter, Bool.or_eq_true, Bool.and_eq_true, decide_eq_true_eq, Char.le_def,
    UInt32.le_iff_toNat_le, Char.toNat_val]
  exact Or.inl h

theorem isKeyName_of_foreign (hmem : c ∈ key.toList) (hforeign : 128 ≤ c.toNat) : isKeyName key = false := by
  rw [Bool.eq_false_iff]
  intro hnamed
  obtain ⟨entry, hentry, hname⟩ := List.any_eq_true.mp hnamed
  rw [← of_decide_eq_true hname] at hmem
  exact Nat.not_lt.mpr hforeign (ascii_keyNames ⟨entry.1, hentry⟩ hmem).1

section Small

variable (h : ('a'.toNat ≤ k.toNat ∧ k.toNat ≤ 'z'.toNat) ∨ 128 ≤ k.toNat)

include h

theorem shifted?_of_small : Shift.shifted? k = none := by
  refine Shift.shifted?_eq_none fun pair hpair hlow => ?_
  obtain ⟨hascii, hletter, -⟩ := pairs_ascii pair hpair
  rw [hlow] at hascii hletter
  rcases h with hsmall | hforeign
  · exact hletter hsmall
  · exact Nat.not_lt.mpr hforeign hascii.1

theorem isKeyName_of_small : isKeyName (String.singleton k) = false := by
  rcases h with hsmall | hforeign
  · rw [Bool.eq_false_iff]
    intro hnamed
    obtain ⟨entry, hentry, hname⟩ := List.any_eq_true.mp hnamed
    have hlist := toList_eq_singleton (of_decide_eq_true hname)
    have hletter := isLetter_keyNames entry hentry (by rw [hlist]; rfl)
    rw [hlist, List.any_cons, isLetter_of_small hsmall] at hletter
    cases hletter
  · exact isKeyName_of_foreign (by rw [String.toList_singleton]; exact List.mem_singleton_self k) hforeign

end Small

/-- The key of a capital types the upper case of its name with shift. -/
theorem shiftedText_of_capital (h : Text.lower c ≠ [c]) :
    KeyEvent.shiftedText (String.ofList (Text.lower c)) = some (String.ofList ((Text.lower c).flatMap Text.upper)) := by
  rcases Text.Casing.lower_cases c with ⟨k, hsingle⟩ | hdotted
  · have hsmall := (Text.Casing.lower_eq_singleton hsingle).resolve_left fun heq => h (heq ▸ hsingle)
    rw [hsingle, KeyEvent.shiftedText, String.toList_ofList, List.flatMap_singleton]
    dsimp only
    rw [shifted?_of_small hsmall]
    dsimp only
    rw [← String.singleton_eq_ofList, isKeyName_of_small hsmall, if_neg Bool.false_ne_true]
  · have hword : isKeyName (String.ofList ['i', '\u0307']) = false :=
      isKeyName_of_foreign (by rw [String.toList_ofList]; decide) (by decide : 128 ≤ '\u0307'.toNat)
    rw [hdotted, KeyEvent.shiftedText, String.toList_ofList]
    dsimp only
    rw [hword, if_neg Bool.false_ne_true]

theorem keyOfChar_of_capital (h : Text.lower c ≠ [c]) : KeyEvent.keyOfChar c = String.ofList (Text.lower c) := by
  rcases keyOfChar_cases c with ⟨base, hpair, -⟩ | ⟨hreturn, -⟩ | ⟨-, -, heq⟩
  · have hsmall : ∀ pair ∈ shiftPairs, pair.2.isUpper = false := by decide
    exact absurd (lower_of_small (pairs_ascii _ hpair).1.2 (hsmall _ hpair)) h
  · rw [hreturn] at h
    exact absurd (lower_of_small (by decide) (by decide)) h
  · exact heq

theorem ofList_strays_eq_iff (c : Char) : String.ofList ((Text.Casing.strays.lookup c).getD [c]) = String.singleton c ↔
    ∀ stray ∈ Text.Casing.strays, stray.1 ≠ c := by
  cases hstray : Text.Casing.strays.lookup c with
  | some image =>
      have hother : ∀ stray ∈ Text.Casing.strays, stray.2 ≠ [stray.1] := by decide
      have hmem := Text.mem_of_lookup hstray
      refine iff_of_false (fun heq => hother _ hmem ?_) fun hall => hall _ hmem rfl
      rw [Option.getD_some] at heq
      rw [← toList_eq_singleton heq, String.toList_ofList]
  | none =>
      refine iff_of_true rfl fun stray hmem heq => ?_
      exact bne_iff_ne.mp (List.lookup_eq_none_iff.mp hstray stray hmem) heq.symm

/-- A capital typed with shift comes back as itself, unless it is a stray of the case mappings. -/
theorem types_of_capital (c : Char) (hlower : Text.lower c ≠ [c]) (hupper : Text.upper c = [c]) :
    ∃ stroke, (KeyEvent.press c.toNat true).keystroke? = some stroke ∧
      stroke.types = String.ofList ((Text.Casing.strays.lookup c).getD [c]) ∧
      (stroke.types = String.singleton c ↔ ∀ stray ∈ Text.Casing.strays, stray.1 ≠ c) := by
  have hkey := key?_of_char c true
  rw [keyOfChar_of_capital hlower] at hkey
  have htext : KeyEvent.text true (String.ofList (Text.lower c)) =
      String.ofList ((Text.Casing.strays.lookup c).getD [c]) :=
    calc KeyEvent.text true (String.ofList (Text.lower c))
      _ = String.ofList ((Text.lower c).flatMap Text.upper) := by
          rw [KeyEvent.text, if_pos rfl, shiftedText_of_capital hlower, Option.getD_some]
      _ = String.ofList ((Text.Casing.strays.lookup c).getD [c]) := by
          rw [Text.Casing.upper_lower hlower hupper]
  refine ⟨⟨String.ofList ((Text.Casing.strays.lookup c).getD [c]), String.ofList (Text.lower c)⟩, ?_, rfl,
    ofList_strays_eq_iff c⟩
  exact keystroke?_eq_some_iff.mpr ⟨key?_eq_some_iff.mp hkey, htext.symm⟩

/-- Of the two small letters of a sigma, the one that is its lower case brings the capital back. -/
theorem types_of_sigma : Text.lower 'Σ' ≠ ['Σ'] ∧ Text.upper 'Σ' = ['Σ'] ∧
    ∃ stroke, (KeyEvent.press 'Σ'.toNat true).keystroke? = some stroke ∧ stroke.types = "Σ" := by
  have hlower : Text.lower 'Σ' ≠ ['Σ'] := by decide +kernel
  have hupper : Text.upper 'Σ' = ['Σ'] := by decide +kernel
  obtain ⟨stroke, hstroke, -, hsame⟩ := types_of_capital 'Σ' hlower hupper
  exact ⟨hlower, hupper, stroke, hstroke, hsame.mpr (by decide)⟩

/-- The sharp S does not come back: its key types `SS` with shift. -/
theorem types_of_sharp_s :
    ¬∀ c : Char, Text.lower c ≠ [c] → Text.upper c = [c] →
      (KeyEvent.press c.toNat true).keystroke?.map Keystroke.types = some (String.singleton c) := by
  intro hall
  have hsharp := hall '\u1e9e' (by decide +kernel) (by decide +kernel)
  have htypes : (KeyEvent.press 0x1e9e true).keystroke?.map Keystroke.types = some "SS" := by decide +kernel
  rw [show '\u1e9e'.toNat = 0x1e9e from rfl, htypes] at hsharp
  exact absurd hsharp (by decide)

end Hardware

end ScreenKeyboard
