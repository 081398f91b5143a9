/-!
Cutting a text at every occurrence of a separator. The pieces and the separators between them make up
the text again (`join_pieces`), so every other character is in a piece (`exists_mem_pieces`), and what stands
on the two sides of a separator is cut on its own (`pieces_append`).
-/

namespace ScreenKeyboard.Text

/-- What stands before, between and after the separators; always at least one piece. -/
def pieces (sep : Char) : List Char → List (List Char)
  | [] => [[]]
  | c :: rest =>
    if c = sep then [] :: pieces sep rest
    else
      match pieces sep rest with
      | [] => [[c]]
      | piece :: others => (c :: piece) :: others

/-- The texts with a separator between each two. -/
def join (sep : Char) : List (List Char) → List Char
  | [] => []
  | [piece] => piece
  | piece :: others => piece ++ sep :: join sep others

theorem pieces_ne_nil (sep : Char) (text : List Char) : pieces sep text ≠ [] := by
  cases text with
  | nil => simp [pieces]
  | cons c rest =>
    simp only [pieces]
    split
    · simp
    · split <;> simp

theorem join_pieces (sep : Char) (text : List Char) : join sep (pieces sep text) = text := by
  induction text with
  | nil => rfl
  | cons c rest ih =>
    simp only [pieces]
    split
    · next h =>
      cases hp : pieces sep rest with
      | nil => exact absurd hp (pieces_ne_nil sep rest)
      | cons piece others => rw [hp] at ih; simp [join, ih, h]
    · split
      · next hp => exact absurd hp (pieces_ne_nil sep rest)
      · next piece others hp =>
        rw [hp] at ih
        cases others with
        | nil => simpa [join] using ih
        | cons p ps => simpa [join] using ih

theorem exists_of_mem_join {sep c : Char} (hc : c ≠ sep) {parts : List (List Char)} (h : c ∈ join sep parts) :
    ∃ piece ∈ parts, c ∈ piece := by
  induction parts with
  | nil => cases h
  | cons piece others ih =>
    cases others with
    | nil => exact ⟨piece, List.mem_cons_self, h⟩
    | cons next others =>
      rcases List.mem_append.mp h with hfirst | hrest
      · exact ⟨piece, List.mem_cons_self, hfirst⟩
      · obtain ⟨found, hfound, hmem⟩ := ih ((List.mem_cons.mp hrest).resolve_left hc)
        exact ⟨found, List.mem_cons_of_mem _ hfound, hmem⟩

theorem exists_mem_pieces {sep c : Char} (hc : c ≠ sep) {text : List Char} (h : c ∈ text) :
    ∃ piece ∈ pieces sep text, c ∈ piece := by
  rw [← join_pieces sep text] at h
  exact exists_of_mem_join hc h

theorem pieces_of_not_mem {sep : Char} {text : List Char} (h : sep ∉ text) : pieces sep text = [text] := by
  induction text with
  | nil => rfl
  | cons c rest ih =>
    rw [List.mem_cons, not_or] at h
    rw [pieces, if_neg (Ne.symm h.1), ih h.2]

theorem pieces_append (sep : Char) (first second : List Char) :
    pieces sep (first ++ sep :: second) = pieces sep first ++ pieces sep second := by
  induction first with
  | nil => simp [pieces]
  | cons c rest ih =>
    rw [List.cons_append, pieces, pieces, ih]
    split
    · rfl
    · cases hp : pieces sep rest with
      | nil => exact absurd hp (pieces_ne_nil sep rest)
      | cons piece others => rfl

end ScreenKeyboard.Text
