import Mathlib.Data.List.Chain
import Mathlib.Data.List.Induction
import ScreenKeyboard.Layout

/-!
How a layout is cut into rows. `Layout.Cut` says which ranges of keys are the rows of a layout, by where they
begin and end and with no recipe to find them. The ranges that `Layout.rows` collects in one pass over the keys
are such rows and a layout has no others (`rows_partition`), so every key is in one row and keys share a row if
none before the last of them ends it.
-/

namespace ScreenKeyboard

theorem Row.contains_iff {row : Row} {index : Nat} :
    row.contains index = true ↔ row.start ≤ index ∧ index < row.stop := by
  rw [Row.contains, Bool.and_eq_true, decide_eq_true_iff, decide_eq_true_iff]

namespace Layout

/-- Ranges that cut the keys from `start` on into rows: each is taken up where the one before it ends, they reach
up to the last key, and they end after the keys that end a row and nowhere else. -/
structure Cut (layout : Layout) (start : Nat) (rows : List Row) : Prop where
  first : ∀ row ∈ rows.head?, row.start = start
  next : rows.IsChain fun row next => next.start = row.stop
  last : ∀ row ∈ rows.getLast?, row.stop = layout.size
  nil : rows = [] → start = layout.size
  nonempty : ∀ row ∈ rows, row.start < row.stop
  ends : ∀ row ∈ rows.dropLast, layout.endsRow (row.stop - 1) = true
  within : ∀ row ∈ rows, ∀ index, row.start ≤ index → index + 1 < row.stop → layout.endsRow index = false

namespace Cut

variable {layout : Layout} {start : Nat} {row other : Row} {rows rest more : List Row}

theorem of_size (layout : Layout) : layout.Cut layout.size [] where
  first := by simp
  next := .nil
  last := by simp
  nil := fun _ => rfl
  nonempty := by simp
  ends := by simp
  within := by simp

/-- A row before other rows ends after a key that ends it. -/
theorem cons {stop : Nat} (h : layout.Cut stop rest) (nonempty : start < stop)
    (ends : rest ≠ [] → layout.endsRow (stop - 1) = true)
    (within : ∀ index, start ≤ index → index + 1 < stop → layout.endsRow index = false) :
    layout.Cut start (⟨start, stop⟩ :: rest) where
  first := fun row hrow => (Option.some.inj hrow) ▸ rfl
  next := List.isChain_cons.mpr ⟨h.first, h.next⟩
  last := by
    intro row hrow
    cases rest with
    | nil =>
        obtain rfl := Option.some.inj hrow
        exact h.nil rfl
    | cons second rest => exact h.last row (List.getLast?_cons_cons ▸ hrow)
  nil := fun hnil => absurd hnil (List.cons_ne_nil _ _)
  nonempty := List.forall_mem_cons.mpr ⟨nonempty, h.nonempty⟩
  ends := by
    cases rest with
    | nil => simp
    | cons second rest =>
        rw [List.dropLast_cons_cons]
        exact List.forall_mem_cons.mpr ⟨ends (List.cons_ne_nil _ _), h.ends⟩
  within := List.forall_mem_cons.mpr ⟨within, h.within⟩

theorem tail (h : layout.Cut start (row :: rest)) : layout.Cut row.stop rest where
  first := (List.isChain_cons.mp h.next).1
  next := (List.isChain_cons.mp h.next).2
  last := by
    intro last hlast
    cases rest with
    | nil => cases hlast
    | cons second rest => exact h.last last (by rwa [List.getLast?_cons_cons])
  nil := by
    rintro rfl
    exact h.last row rfl
  nonempty := fun other hother => h.nonempty other (List.mem_cons_of_mem _ hother)
  ends := by
    intro other hother
    cases rest with
    | nil => cases hother
    | cons second rest => exact h.ends other (List.dropLast_cons_cons ▸ List.mem_cons_of_mem _ hother)
  within := fun other hother => h.within other (List.mem_cons_of_mem _ hother)

theorem start_eq (h : layout.Cut start (row :: rest)) : row.start = start :=
  h.first row rfl

theorem start_lt (h : layout.Cut start (row :: rest)) : start < row.stop :=
  h.start_eq ▸ h.nonempty row List.mem_cons_self

theorem start_le (h : layout.Cut start rows) : start ≤ layout.size := by
  induction rows generalizing start with
  | nil => exact (h.nil rfl).le
  | cons row rest ih => exact h.start_lt.le.trans (ih h.tail)

theorem lt_size_of_cons (h : layout.Cut start (row :: rest)) : start < layout.size :=
  h.start_lt.trans_le h.tail.start_le

theorem endsRow_of_lt (h : layout.Cut start (row :: rest)) (hstop : row.stop < layout.size) :
    layout.endsRow (row.stop - 1) = true := by
  cases rest with
  | nil => exact absurd (h.last row rfl) hstop.ne
  | cons second rest => exact h.ends row (by simp)

/-- No first row ends later than another: the key that ends the other would be within it. -/
theorem stop_le (h : layout.Cut start (row :: rest)) (hother : layout.Cut start (other :: more)) :
    other.stop ≤ row.stop := by
  have hrow := h.start_lt
  have hstart := hother.start_eq
  have hsize := hother.tail.start_le
  by_contra hlt
  have hends := h.endsRow_of_lt (by omega)
  rw [hother.within other List.mem_cons_self (row.stop - 1) (by omega) (by omega)] at hends
  exact Bool.false_ne_true hends

theorem unique {others : List Row} (h : layout.Cut start rows) (hothers : layout.Cut start others) :
    rows = others := by
  induction rows generalizing start others with
  | nil =>
      cases others with
      | nil => rfl
      | cons other more => exact absurd (h.nil rfl) hothers.lt_size_of_cons.ne
  | cons row rest ih =>
      cases others with
      | nil => exact absurd (hothers.nil rfl) h.lt_size_of_cons.ne
      | cons other more =>
          have hstop : row.stop = other.stop := Nat.le_antisymm (hothers.stop_le h) (h.stop_le hothers)
          have hrow : row = other := by
            cases row
            cases other
            exact congrArg₂ Row.mk (h.start_eq.trans hothers.start_eq.symm) hstop
          rw [hrow, ih h.tail (hstop ▸ hothers.tail)]

/-- Every key from `start` on is in one of the rows, and in no other. -/
theorem countP_contains (h : layout.Cut start rows) (index : Nat) :
    rows.countP (·.contains index) = if start ≤ index ∧ index < layout.size then 1 else 0 := by
  induction rows generalizing start with
  | nil =>
      have hstart := h.nil rfl
      rw [List.countP_nil, if_neg (by omega)]
  | cons row rest ih =>
      have hrow := h.start_eq
      have hlt := h.start_lt
      have hle := h.tail.start_le
      simp only [List.countP_cons, ih h.tail, Row.contains_iff]
      split_ifs <;> omega

theorem lt_size (h : layout.Cut start rows) (hrow : row ∈ rows) {index : Nat} (hindex : row.contains index = true) :
    index < layout.size := by
  have hcount : 0 < rows.countP (·.contains index) := List.countP_pos_iff.mpr ⟨row, hrow, hindex⟩
  rw [h.countP_contains] at hcount
  split_ifs at hcount with hbetween
  · exact hbetween.2
  · exact absurd hcount (lt_irrefl 0)

theorem exists_contains (h : layout.Cut start rows) {index : Nat} (hstart : start ≤ index)
    (hsize : index < layout.size) : ∃ row ∈ rows, row.contains index = true := by
  apply List.countP_pos_iff.mp
  rw [h.countP_contains, if_pos ⟨hstart, hsize⟩]
  exact Nat.one_pos

theorem stop_cases (h : layout.Cut start rows) (hrow : row ∈ rows) :
    row.stop = layout.size ∨ layout.endsRow (row.stop - 1) = true := by
  obtain rfl | ⟨init, last, rfl⟩ := List.eq_nil_or_concat rows
  · cases hrow
  · rw [List.concat_eq_append] at h hrow
    rcases List.mem_append.mp hrow with hinit | hlast
    · exact Or.inr (h.ends row (by rwa [List.dropLast_concat]))
    · rw [List.mem_singleton.mp hlast]
      exact Or.inl (h.last last (by rw [List.getLast?_concat]; rfl))

/-- Keys are in the same row if none of them but the last ends it. -/
theorem same_row_iff (h : layout.Cut start rows) {first second : Nat} (hstart : start ≤ first)
    (hle : first ≤ second) (hsize : second < layout.size) :
    (∃ row ∈ rows, row.contains first = true ∧ row.contains second = true) ↔
      ∀ index, first ≤ index → index < second → layout.endsRow index = false := by
  constructor
  · rintro ⟨row, hrow, hfirst, hsecond⟩ index hindex hlt
    rw [Row.contains_iff] at hfirst hsecond
    exact h.within row hrow index (by omega) (by omega)
  · intro hfree
    obtain ⟨row, hrow, hfirst⟩ := h.exists_contains hstart (by omega)
    refine ⟨row, hrow, hfirst, ?_⟩
    rw [Row.contains_iff] at hfirst ⊢
    refine ⟨by omega, ?_⟩
    rcases h.stop_cases hrow with hstop | hends
    · omega
    · by_contra hge
      rw [hfree (row.stop - 1) (by omega) (by omega)] at hends
      exact Bool.false_ne_true hends

end Cut

/-- The pass over the keys: what it collects from `index` on cuts the keys from `start` on, where its row began. -/
theorem cut_rowsFrom {layout : Layout} {keys : List Key} {start index : Nat}
    (hkeys : layout.keys.drop index = keys) (hindex : index ≤ layout.size) (hstart : start ≤ index)
    (hfree : ∀ earlier, start ≤ earlier → earlier < index → layout.endsRow earlier = false) :
    layout.Cut start (rowsFrom start index keys) := by
  induction keys generalizing start index with
  | nil =>
      have hsize : index = layout.size := Nat.le_antisymm hindex (List.drop_eq_nil_iff.mp hkeys)
      subst hsize
      rw [rowsFrom]
      split_ifs with hlt
      · exact (Cut.of_size layout).cons hlt (fun hne => absurd rfl hne)
          fun earlier hle hearlier => hfree earlier hle (by omega)
      · rw [Nat.le_antisymm hstart (Nat.le_of_not_lt hlt)]
        exact Cut.of_size layout
  | cons key rest ih =>
      have hlt : index < layout.size := by
        by_contra hge
        rw [List.drop_eq_nil_of_le (Nat.le_of_not_lt hge)] at hkeys
        cases hkeys
      have hkey : layout.endsRow index = key.endsRow := by
        have hfound : layout.keys[index]? = some key := by
          rw [← List.head?_drop, hkeys, List.head?_cons]
        rw [endsRow, key?, hfound, Option.any_some]
      have hrest : layout.keys.drop (index + 1) = rest := by
        rw [← List.drop_drop, hkeys, List.drop_one, List.tail_cons]
      rw [rowsFrom]
      split_ifs with hends
      · refine (ih hrest hlt le_rfl fun earlier hle hearlier => by omega).cons (by omega)
          (fun _ => hkey.trans hends) fun earlier hle hearlier => hfree earlier hle (by omega)
      · refine ih hrest hlt (by omega) fun earlier hle hearlier => ?_
        rcases Nat.lt_succ_iff_lt_or_eq.mp hearlier with hbefore | rfl
        · exact hfree earlier hle hbefore
        · rw [hkey, Bool.eq_false_iff]
          exact hends

theorem cut_rows (layout : Layout) : layout.Cut 0 layout.rows :=
  cut_rowsFrom rfl (Nat.zero_le _) le_rfl fun _ _ hlt => absurd hlt (Nat.not_lt_zero _)

theorem rows_eq_nil_iff (layout : Layout) : layout.rows = [] ↔ layout.keys = [] := by
  rw [← List.length_eq_zero_iff (l := layout.keys)]
  constructor
  · exact fun hnil => (layout.cut_rows.nil hnil).symm
  · intro hsize
    by_contra hne
    obtain ⟨row, rest, hrows⟩ := List.exists_cons_of_ne_nil hne
    have hcut := hrows ▸ layout.cut_rows
    exact hcut.lt_size_of_cons.ne hsize.symm

/-- The rows of a layout are the ranges that cut its keys, and the only ones. Every key is in one row, and two keys
are in the same row if and only if no key from the first of them up to the one before the second ends a row. -/
theorem rows_partition (layout : Layout) :
    (∀ rows, layout.Cut 0 rows ↔ rows = layout.rows) ∧
    (layout.rows = [] ↔ layout.keys = []) ∧
    (∀ index, layout.rows.countP (·.contains index) = if index < layout.size then 1 else 0) ∧
    ∀ first second, first ≤ second → second < layout.size →
      ((∃ row ∈ layout.rows, row.contains first = true ∧ row.contains second = true) ↔
        ∀ index, first ≤ index → index < second → layout.endsRow index = false) := by
  refine ⟨fun rows => ⟨fun hcut => hcut.unique layout.cut_rows, ?_⟩, layout.rows_eq_nil_iff, fun index => ?_,
    fun first second => layout.cut_rows.same_row_iff (Nat.zero_le first)⟩
  · rintro rfl
    exact layout.cut_rows
  · rw [layout.cut_rows.countP_contains]
    simp only [Nat.zero_le, true_and]

end Layout

end ScreenKeyboard
