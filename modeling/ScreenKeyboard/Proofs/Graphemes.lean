import Mathlib.Data.List.SplitBy
import ScreenKeyboard.Proofs.Legends

/-!
Legends of a single grapheme. Caps lock changes a legend that is one grapheme and in it one character. Where the
graphemes of a text end is a matter of large tables, but none of it is needed: whatever cuts texts into pieces that
are not empty and make up the text, a legend with a caps form is a text of one character, and the number of
pieces adds nothing (`recaseGrapheme?_of_segments`).
-/

namespace ScreenKeyboard

namespace Text

/-- A way to cut texts: into pieces that are not empty and make up the text. -/
structure Segments (cut : String → List String) : Prop where
  join_eq : ∀ text, String.join (cut text) = text
  ne_empty : ∀ text, ∀ piece ∈ cut text, piece ≠ ""

namespace Segments

variable {cut : String → List String}

theorem eq_of_single (h : Segments cut) {text piece : String} (hcut : cut text = [piece]) : piece = text := by
  have hjoin := h.join_eq text
  rwa [hcut, String.join_cons, String.join_nil, String.append_empty] at hjoin

/-- A single character is not cut. -/
theorem cut_singleton (h : Segments cut) (c : Char) : cut (String.singleton c) = [String.singleton c] := by
  have hjoin := congrArg String.toList (h.join_eq (String.singleton c))
  have hnonempty := h.ne_empty (String.singleton c)
  rw [String.toList_join, String.toList_singleton] at hjoin
  cases hcut : cut (String.singleton c) with
  | nil =>
      rw [hcut] at hjoin
      cases hjoin
  | cons piece rest =>
      cases rest with
      | nil => rw [h.eq_of_single hcut]
      | cons next rest =>
          rw [hcut] at hjoin hnonempty
          have hpiece : piece.toList ≠ [] := fun hnil =>
            hnonempty piece List.mem_cons_self (String.toList_eq_nil_iff.mp hnil)
          have hnext : next.toList ≠ [] := fun hnil =>
            hnonempty next (List.mem_cons_of_mem _ List.mem_cons_self) (String.toList_eq_nil_iff.mp hnil)
          have hlength := congrArg List.length hjoin
          simp only [List.flatMap_cons, List.length_append, List.length_singleton] at hlength
          have hpiece := List.length_pos_iff.mpr hpiece
          have hnext := List.length_pos_iff.mpr hnext
          omega

end Segments

/-- Texts cut after every character, but not before a combining mark, nor between the two characters of a line
end. -/
def clusters (text : String) : List String :=
  (text.toList.splitBy fun c d => ('\u0300' ≤ d && d ≤ '\u036f') || (c = '\r' && d = '\n')).map String.ofList

theorem segments_clusters : Segments clusters where
  join_eq text := by
    rw [← String.toList_inj, String.toList_join, clusters, List.flatMap_map]
    simp only [String.toList_ofList, List.flatMap_id', List.flatten_splitBy]
  ne_empty text piece hpiece := by
    obtain ⟨cs, hcs, rfl⟩ := List.mem_map.mp hpiece
    intro hempty
    rw [← String.toList_inj, String.toList_ofList] at hempty
    exact List.ne_nil_of_mem_splitBy hcs hempty

end Text

namespace Legend

theorem isSome_recase?_iff (engaged : Bool) (legend : String) :
    (recase? engaged legend).isSome = true ↔ hasCaps legend = true := by
  cases hcaps : hasCaps legend with
  | false => simp [recase?_of_not_hasCaps hcaps]
  | true =>
      obtain ⟨c, rfl, hletter | ⟨partner, hpartner⟩⟩ := hasCaps_cases hcaps
      · simp [recase?_letter hletter]
      · simp [recase?_paired hpartner]

/-- A legend with a caps form is a letter, and then the same letter in the case of the state, or a character of a
pair, and then the other one. -/
theorem recase?_cases {engaged : Bool} {legend result : String} (h : recase? engaged legend = some result) :
    ∃ c d, legend = String.singleton c ∧ result = String.singleton d ∧
      ((isLetter c = true ∧ isLetter d = true ∧ d = letterCase engaged c ∧ d.toLower = c.toLower) ∨
        (c, d) ∈ shiftPairs ∨ (d, c) ∈ shiftPairs) := by
  have hcaps : hasCaps legend = true := (isSome_recase?_iff engaged legend).mp (by rw [h]; rfl)
  obtain ⟨c, rfl, hletter | ⟨partner, hpartner⟩⟩ := hasCaps_cases hcaps
  · rw [recase?_letter hletter] at h
    refine ⟨c, letterCase engaged c, rfl, (Option.some.inj h).symm, Or.inl ⟨hletter, ?_, rfl, ?_⟩⟩
    · exact isLetter_letterCase hletter engaged
    · exact letterCase_letterCase hletter false engaged
  · rw [recase?_paired hpartner] at h
    exact ⟨c, partner, rfl, (Option.some.inj h).symm, Or.inr (Shift.partner?_mem hpartner)⟩

/-- A legend that is cut into other than one piece is no single character. -/
theorem recaseGrapheme?_eq {graphemes : String → List String} (h : Text.Segments graphemes) (engaged : Bool)
    (legend : String) : recaseGrapheme? graphemes engaged legend = recase? engaged legend := by
  unfold recaseGrapheme?
  split
  · next only hcut => rw [h.eq_of_single hcut]
  · next hcut =>
      symm
      rw [← Option.not_isSome_iff_eq_none, isSome_recase?_iff]
      intro hcaps
      obtain ⟨c, rfl, -⟩ := hasCaps_cases hcaps
      exact hcut _ (h.cut_singleton c)

/-- Whatever graphemes are, a legend has a caps form if it is a single character, a letter or one of a pair, and
the caps form is such a character too, the same letter or one of the same pair. The empty legend and every legend
of several characters have none, be they one grapheme or many. -/
theorem recaseGrapheme?_of_segments (graphemes : String → List String) (h : Text.Segments graphemes) (engaged : Bool)
    (legend : String) :
    recaseGrapheme? graphemes engaged legend = recase? engaged legend ∧
    ((recaseGrapheme? graphemes engaged legend).isSome = true ↔
      ∃ c, legend.toList = [c] ∧ (isLetter c = true ∨ ∃ pair ∈ shiftPairs, c = pair.1 ∨ c = pair.2)) ∧
    (∀ result, recaseGrapheme? graphemes engaged legend = some result →
      ∃ c d, legend = String.singleton c ∧ result = String.singleton d ∧
        ((isLetter c = true ∧ isLetter d = true ∧ d = letterCase engaged c ∧ d.toLower = c.toLower) ∨
          (c, d) ∈ shiftPairs ∨ (d, c) ∈ shiftPairs)) ∧
    (legend.toList.length ≠ 1 → recaseGrapheme? graphemes engaged legend = none) := by
  rw [recaseGrapheme?_eq h]
  have hsome := (isSome_recase?_iff engaged legend).trans (hasCaps_iff legend)
  refine ⟨rfl, hsome, fun result => recase?_cases, fun hlength => ?_⟩
  rw [← Option.not_isSome_iff_eq_none, hsome]
  rintro ⟨c, hlegend, -⟩
  rw [hlegend] at hlength
  exact hlength rfl

/-- A letter with a combining accent is one grapheme and yet has no caps form, nor has a line end of two characters;
the letter alone has one. -/
theorem recaseGrapheme?_of_accent :
    Text.Segments Text.clusters ∧
      (Text.clusters "e\u0301" = ["e\u0301"] ∧ recaseGrapheme? Text.clusters true "e\u0301" = none) ∧
      (Text.clusters "\r\n" = ["\r\n"] ∧ recaseGrapheme? Text.clusters true "\r\n" = none) ∧
      recaseGrapheme? Text.clusters true "e" = some "E" := by
  have hspec := recaseGrapheme?_of_segments Text.clusters Text.segments_clusters true
  exact ⟨Text.segments_clusters, ⟨by decide +kernel, (hspec "e\u0301").2.2.2 (by decide)⟩,
    ⟨by decide +kernel, (hspec "\r\n").2.2.2 (by decide)⟩, (hspec "e").1.trans (by decide)⟩

end Legend

end ScreenKeyboard
