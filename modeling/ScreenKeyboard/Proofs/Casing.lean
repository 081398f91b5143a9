import Mathlib.Tactic.SplitIfs
import ScreenKeyboard.Text.Casing

/-!
The case mappings of characters, from the tables that define them. `maps_map` says once where an image can come
from. No run of lower case takes up what another one gives, which a comparison of two sets of bits shows for all
runs at once, so small letters stay as they are (`lower_lower`).
-/

namespace ScreenKeyboard.Text

theorem mem_of_lookup {α β : Type} [BEq α] [LawfulBEq α] {pairs : List (α × β)} {key : α} {value : β}
    (h : pairs.lookup key = some value) : (key, value) ∈ pairs := by
  obtain ⟨before, after, rfl, -⟩ := List.lookup_eq_some_iff.mp h
  exact List.mem_append_cons_self

theorem toNat_ofNat {n : Nat} (h : n.isValidChar) : (Char.ofNat n).toNat = n := by
  rw [Char.ofNat, dif_pos h]
  rfl

namespace CodeRun

variable {run : CodeRun} {code image : Nat}

theorem image?_eq_some_iff : run.image? code = some image ↔
    (run.first ≤ code ∧ code ≤ run.last ∧ (code - run.first) % run.step = 0) ∧
      run.target + (code - run.first) = image := by
  rw [image?]
  split_ifs with hinside
  · rw [Option.some_inj, and_iff_right hinside]
  · exact iff_of_false nofun fun h => hinside h.1

/-- The run gives characters, and not the code points that stand for none. -/
def Valid (run : CodeRun) : Prop :=
  run.target + (run.last - run.first) < 0xd800 ∨
    0xdfff < run.target ∧ run.target + (run.last - run.first) < 0x110000

instance : DecidablePred Valid := fun _ => inferInstanceAs (Decidable (_ ∨ _))

theorem Valid.toNat_image (hvalid : run.Valid) (h : run.image? code = some image) :
    (Char.ofNat image).toNat = image := by
  obtain ⟨⟨hfirst, hlast, -⟩, rfl⟩ := image?_eq_some_iff.mp h
  apply toNat_ofNat
  rcases hvalid with hlow | ⟨hhigh, hbound⟩
  · exact Or.inl (by omega)
  · exact Or.inr ⟨by omega, by omega⟩

/-! ### Runs as sets of bits -/

/-- The number with a bit for each of the first multiples of the step. -/
def stripes (step : Nat) : Nat → Nat
  | 0 => 0
  | count + 1 => stripes step count <<< step ||| 1

theorem testBit_stripes (step : Nat) {count index : Nat} (h : index < count) :
    (stripes step count).testBit (step * index) = true := by
  induction count generalizing index with
  | zero => cases h
  | succ count ih =>
      rw [stripes, Nat.testBit_or, Nat.testBit_shiftLeft]
      cases index with
      | zero => simp
      | succ index => simp [Nat.mul_succ, ih (Nat.lt_of_succ_lt_succ h)]

/-- The number with a bit for each code point of the runs, when they are moved to the given starts. -/
def mask (start : CodeRun → Nat) (runs : List CodeRun) : Nat :=
  runs.foldr (fun run bits => bits ||| stripes run.step ((run.last - run.first) / run.step + 1) <<< start run) 0

theorem testBit_mask (start : CodeRun → Nat) {runs : List CodeRun} (hrun : run ∈ runs)
    (h : run.image? code = some image) : (mask start runs).testBit (start run + (code - run.first)) = true := by
  induction runs with
  | nil => cases hrun
  | cons head rest ih =>
      rw [mask, List.foldr_cons, Nat.testBit_or, Bool.or_eq_true]
      rcases List.mem_cons.mp hrun with rfl | hlater
      · obtain ⟨⟨-, hlast, hstep⟩, -⟩ := image?_eq_some_iff.mp h
        have hindex : (code - run.first) / run.step < (run.last - run.first) / run.step + 1 :=
          Nat.lt_succ_of_le (Nat.div_le_div_right (Nat.sub_le_sub_right hlast _))
        have hbit := testBit_stripes run.step hindex
        rw [Nat.mul_div_cancel' (Nat.dvd_of_mod_eq_zero hstep)] at hbit
        right
        rw [Nat.testBit_shiftLeft, Nat.add_sub_cancel_left, hbit, decide_eq_true (Nat.le_add_right _ _), Bool.and_true]
      · exact Or.inl (ih hlater)

theorem testBit_sources {runs : List CodeRun} (hrun : run ∈ runs) (h : run.image? code = some image) :
    (mask first runs).testBit code = true := by
  have hbit := testBit_mask first hrun h
  rwa [Nat.add_sub_cancel' (image?_eq_some_iff.mp h).1.1] at hbit

theorem testBit_images {runs : List CodeRun} (hrun : run ∈ runs) (h : run.image? code = some image) :
    (mask target runs).testBit image = true := by
  have hbit := testBit_mask target hrun h
  rwa [(image?_eq_some_iff.mp h).2] at hbit

end CodeRun

namespace Casing

/-- Where the image of a character under a case mapping comes from. -/
inductive Maps (runs : List CodeRun) (expansions : List (Nat × List Nat)) (c : Char) : List Char → Prop
  | run {run : CodeRun} {code : Nat} (mem : run ∈ runs) (image : run.image? c.toNat = some code) :
      Maps runs expansions c [Char.ofNat code]
  | expansion {codes : List Nat} (mem : (c.toNat, codes) ∈ expansions) :
      Maps runs expansions c (codes.map Char.ofNat)
  | same (outside : ∀ run ∈ runs, run.image? c.toNat = none) : Maps runs expansions c [c]

variable {runs : List CodeRun} {expansions : List (Nat × List Nat)} {c : Char}

theorem maps_map (runs : List CodeRun) (expansions : List (Nat × List Nat)) (c : Char) :
    Maps runs expansions c (map runs expansions c) := by
  unfold map
  cases hrun : CodeRun.lookup? runs c.toNat with
  | some code =>
      obtain ⟨run, hmem, himage⟩ := List.exists_of_findSome?_eq_some hrun
      exact .run hmem himage
  | none =>
      cases hlong : expansions.lookup c.toNat with
      | some codes => exact .expansion (mem_of_lookup hlong)
      | none => exact .same (List.findSome?_eq_none_iff.mp hrun)

theorem maps_lower (c : Char) : Maps lowerRuns lowerExpansions c (lower c) :=
  maps_map lowerRuns lowerExpansions c

theorem map_eq_self (hruns : ∀ run ∈ runs, run.image? c.toNat = none)
    (hexpansions : ∀ entry ∈ expansions, entry.1 ≠ c.toNat) : map runs expansions c = [c] := by
  have hlong : expansions.lookup c.toNat = none :=
    List.lookup_eq_none_iff.mpr fun entry hentry => bne_iff_ne.mpr (hexpansions entry hentry).symm
  rw [map, CodeRun.lookup?, List.findSome?_eq_none_iff.mpr hruns, hlong]

theorem map_ne_nil (hexpansions : ∀ entry ∈ expansions, entry.2 ≠ []) (c : Char) : map runs expansions c ≠ [] := by
  have hmaps := maps_map runs expansions c
  generalize map runs expansions c = image at hmaps ⊢
  cases hmaps with
  | run mem image => exact List.cons_ne_nil _ _
  | expansion mem => exact fun hnil => hexpansions _ mem (List.map_eq_nil_iff.mp hnil)
  | same outside => exact List.cons_ne_nil _ _

theorem lower_ne_nil (c : Char) : lower c ≠ [] :=
  map_ne_nil (by decide) c

theorem upper_ne_nil (c : Char) : upper c ≠ [] :=
  map_ne_nil (by decide) c

theorem isUpper_iff (c : Char) : c.isUpper = true ↔ 'A'.toNat ≤ c.toNat ∧ c.toNat ≤ 'Z'.toNat := by
  have hdecide : c.isUpper = decide ('A'.val ≤ c.val ∧ c.val ≤ 'Z'.val) := rfl
  rw [hdecide, decide_eq_true_iff, UInt32.le_iff_toNat_le, UInt32.le_iff_toNat_le]
  exact Iff.rfl

/-! ### Lower case -/

/-- Lower case gives characters, and of the ASCII characters the small letters alone. -/
theorem lowerRuns_valid : ∀ run ∈ lowerRuns, run.Valid ∧
    ('a'.toNat ≤ run.target ∧ run.target + (run.last - run.first) ≤ 'z'.toNat ∨ 128 ≤ run.target) := by
  decide +kernel

/-- What one run of lower case gives, no run of it takes. -/
theorem lowerRuns_apart :
    CodeRun.mask CodeRun.target lowerRuns &&& CodeRun.mask CodeRun.first lowerRuns = 0 := by
  decide +kernel

/-- What a run of lower case gives, lower case does not expand. -/
theorem lowerExpansions_apart :
    ∀ entry ∈ lowerExpansions, (CodeRun.mask CodeRun.target lowerRuns).testBit entry.1 = false := by
  decide +kernel

theorem lowerRuns_capitals : (⟨65, 90, 1, 97⟩ : CodeRun) ∈ lowerRuns :=
  List.mem_cons_self

section Run

variable {run : CodeRun} {code image : Nat}

theorem toNat_of_lowerRun (hrun : run ∈ lowerRuns) (himage : run.image? code = some image) :
    (Char.ofNat image).toNat = image :=
  (lowerRuns_valid run hrun).1.toNat_image himage

theorem small_of_lowerRun (hrun : run ∈ lowerRuns) (himage : run.image? code = some image) :
    ('a'.toNat ≤ image ∧ image ≤ 'z'.toNat) ∨ 128 ≤ image := by
  obtain ⟨⟨hfirst, hlast, -⟩, rfl⟩ := CodeRun.image?_eq_some_iff.mp himage
  rcases (lowerRuns_valid run hrun).2 with ⟨hlow, hhigh⟩ | hforeign
  · exact Or.inl ⟨by omega, by omega⟩
  · exact Or.inr (by omega)

theorem lower_of_lowerRun (hrun : run ∈ lowerRuns) (himage : run.image? code = some image) :
    lower (Char.ofNat image) = [Char.ofNat image] := by
  have hgiven := CodeRun.testBit_images hrun himage
  refine map_eq_self (fun other hother => ?_) fun entry hentry heq => ?_
  · rw [toNat_of_lowerRun hrun himage, Option.eq_none_iff_forall_ne_some]
    intro next hnext
    have hboth := congrArg (Nat.testBit · image) lowerRuns_apart
    simp only [Nat.testBit_and, hgiven, CodeRun.testBit_sources hother hnext, Nat.zero_testBit] at hboth
    cases hboth
  · rw [toNat_of_lowerRun hrun himage] at heq
    have hunmapped := lowerExpansions_apart entry hentry
    rw [heq, hgiven] at hunmapped
    cases hunmapped

end Run

/-- Lower case gives small characters: in lower case they are the same. -/
theorem lower_lower (c : Char) : (lower c).flatMap lower = lower c := by
  have hmaps := maps_lower c
  generalize himage : lower c = image at hmaps ⊢
  cases hmaps with
  | run mem image => rw [List.flatMap_singleton, lower_of_lowerRun mem image]
  | expansion mem =>
      obtain ⟨-, rfl⟩ := Prod.mk.inj (List.mem_singleton.mp mem)
      decide +kernel
  | same outside => rw [List.flatMap_singleton, himage]

theorem lower_of_lower_eq {d : Char} (h : lower c = [d]) : lower d = [d] := by
  have hlower := lower_lower c
  rwa [h, List.flatMap_singleton] at hlower

/-- A character whose lower case is a single character either has none of its own or is given a small ASCII letter
or a character that is not ASCII. -/
theorem lower_eq_singleton {d : Char} (h : lower c = [d]) :
    d = c ∨ ('a'.toNat ≤ d.toNat ∧ d.toNat ≤ 'z'.toNat) ∨ 128 ≤ d.toNat := by
  have hmaps := maps_lower c
  generalize lower c = image at hmaps h
  cases hmaps with
  | run mem image =>
      obtain rfl := List.singleton_inj.mp h
      rw [toNat_of_lowerRun mem image]
      exact Or.inr (small_of_lowerRun mem image)
  | expansion mem =>
      obtain ⟨-, rfl⟩ := Prod.mk.inj (List.mem_singleton.mp mem)
      cases h
  | same outside => exact Or.inl (List.singleton_inj.mp h).symm

theorem lower_cases (c : Char) : (∃ d, lower c = [d]) ∨ lower c = ['i', '\u0307'] := by
  have hmaps := maps_lower c
  generalize lower c = image at hmaps
  cases hmaps with
  | run mem image => exact Or.inl ⟨_, rfl⟩
  | expansion mem =>
      obtain ⟨-, rfl⟩ := Prod.mk.inj (List.mem_singleton.mp mem)
      exact Or.inr rfl
  | same outside => exact Or.inl ⟨c, rfl⟩

theorem isUpper_lower (c : Char) : ∀ d ∈ lower c, d.isUpper = false := by
  have hmaps := maps_lower c
  generalize lower c = image at hmaps
  intro d hd
  rw [Bool.eq_false_iff, ne_eq, isUpper_iff]
  have hletters : 'Z'.toNat < 'a'.toNat ∧ 'Z'.toNat < 128 := by decide
  cases hmaps with
  | run mem image =>
      rw [List.mem_singleton.mp hd, toNat_of_lowerRun mem image]
      have hsmall := small_of_lowerRun mem image
      omega
  | expansion mem =>
      obtain ⟨-, rfl⟩ := Prod.mk.inj (List.mem_singleton.mp mem)
      have hsmall : (([105, 775].map Char.ofNat).all fun d => !d.isUpper) = true := by decide
      rw [← isUpper_iff, Bool.not_eq_true, ← Bool.not_eq_true']
      exact List.all_eq_true.mp hsmall d hd
  | same outside =>
      rintro ⟨hlow, hhigh⟩
      rw [List.mem_singleton.mp hd] at hlow hhigh
      have houtside := outside _ lowerRuns_capitals
      rw [CodeRun.image?, if_pos ⟨hlow, hhigh, Nat.mod_one _⟩] at houtside
      cases houtside

end Casing

end ScreenKeyboard.Text
