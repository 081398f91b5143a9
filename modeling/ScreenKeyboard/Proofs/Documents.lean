import ScreenKeyboard.Proofs.Quotes
import ScreenKeyboard.Toml.Document

/-!
Documents that are written line by line. `ReadsAs` says of a part of a text that it is read as certain lines
whatever follows it, so a document can be put together from its parts (`ReadsAs.append`). A document of
headers with keys and values under them describes a table of tables with just those entries in that order, as
long as no name stands twice (`ofLines_groups`).
-/

namespace ScreenKeyboard.Toml

open Text (isDigit_of_mem_toDigits ne_of_test)

/-! ### Values -/

/-- A text that reads as this value where a line ends after it, and that has no blanks before the value. -/
def Spells (text : List Char) (value : Value) : Prop :=
  ∀ rest, skipBlanks (text ++ '\n' :: rest) = text ++ '\n' :: rest ∧
    value? 79 (text ++ '\n' :: rest) = some (value, '\n' :: rest)

theorem skipBlanks_cons {c : Char} (hc : isBlank c = false) (text : List Char) :
    skipBlanks (c :: text) = c :: text := by
  rw [skipBlanks, List.dropWhile_cons_of_neg (by rw [hc]; exact Bool.false_ne_true)]

theorem spells_boolean (b : Bool) : Spells (if b then "true" else "false").toList (.boolean b) := by
  cases b <;> exact fun rest => ⟨rfl, rfl⟩

theorem spells_quote (s : String) : Spells (quote s) (.string s) := by
  intro rest
  have hread := quotedString?_quote s rest
  have hquote : (∃ text, quote s = '"' :: text) ∨ ∃ text, quote s = '\'' :: text := by
    rw [quote]
    cases QuoteForm.of s.toList with
    | basic => exact Or.inl ⟨_, rfl⟩
    | literal => exact Or.inr ⟨_, rfl⟩
    | basicBlock => exact Or.inl ⟨_, rfl⟩
    | literalBlock => exact Or.inr ⟨_, rfl⟩
  rcases hquote with ⟨text, htext⟩ | ⟨text, htext⟩
  · rw [htext, List.cons_append] at hread ⊢
    refine ⟨skipBlanks_cons rfl _, ?_⟩
    rw [value?, hread, Option.map_some]
    simp only [String.ofList_toList]
  · rw [htext, List.cons_append] at hread ⊢
    refine ⟨skipBlanks_cons rfl _, ?_⟩
    rw [value?, hread, Option.map_some]
    simp only [String.ofList_toList]

theorem value?_of_isDigit {c : Char} (hc : c.isDigit = true) (depth : Nat) (text : List Char) :
    value? depth (c :: text) =
      match moment? (c :: text) with
      | some (m, rest) => some (.moment m, rest)
      | none => number? (c :: text) := by
  unfold value?
  split
  · next heq => exact absurd (List.cons.inj heq).1 (ne_of_test hc rfl)
  · next heq => exact absurd (List.cons.inj heq).1 (ne_of_test hc rfl)
  · next heq => exact absurd (List.cons.inj heq).1 (ne_of_test hc rfl)
  · next heq => exact absurd (List.cons.inj heq).1 (ne_of_test hc rfl)
  · next heq => exact absurd (List.cons.inj heq).1 (ne_of_test hc rfl)
  · next heq => exact absurd (List.cons.inj heq).1 (ne_of_test hc rfl)
  · rfl

theorem spells_toDigits {n : Nat} (hn : n < Nat.pow 2 63) : Spells (Nat.toDigits 10 n) (.integer n) := by
  intro rest
  have hdigits : ∀ c ∈ Nat.toDigits 10 n, c.isDigit = true :=
    fun c hc => isDigit_of_mem_toDigits hc
  have hmoment := moment?_digits hdigits rest
  have hnumber := number?_toDigits hn rest
  cases htext : Nat.toDigits 10 n with
  | nil => exact absurd htext Nat.toDigits_ne_nil
  | cons c ds =>
      rw [htext] at hdigits hmoment hnumber
      have hc := hdigits c List.mem_cons_self
      have hblank : isBlank c = false := by
        by_contra h
        rcases eq_of_isBlank (Bool.not_eq_false _ ▸ h) with rfl | rfl <;> cases hc
      refine ⟨skipBlanks_cons hblank _, ?_⟩
      rw [List.cons_append] at hmoment hnumber ⊢
      rw [value?_of_isDigit hc, hmoment]
      exact hnumber

/-! ### Lines -/

/-- A name that needs no quotes as a key. -/
structure Bare (name : List Char) : Prop where
  ne_nil : name ≠ []
  all : ∀ c ∈ name, KeyPath.isBare c = true

theorem bare_iff (name : List Char) : (!name.isEmpty && name.all KeyPath.isBare) = true ↔ Bare name := by
  rw [Bool.and_eq_true, Bool.not_eq_true', List.isEmpty_eq_false_iff, List.all_eq_true]
  exact ⟨fun h => ⟨h.1, h.2⟩, fun h => ⟨h.ne_nil, h.all⟩⟩

instance (name : List Char) : Decidable (Bare name) :=
  decidable_of_iff _ (bare_iff name)

theorem isBlank_of_isBare {c : Char} (h : KeyPath.isBare c = true) : isBlank c = false := by
  by_contra hblank
  rcases eq_of_isBlank (Bool.not_eq_false _ ▸ hblank) with rfl | rfl <;> cases h

theorem Bare.single_eq {name : List Char} (h : Bare name) {after : List Char}
    (hstop : after.takeWhile KeyPath.isBare = []) :
    KeyPath.single (name ++ after) = some (String.ofList name, after) := by
  have htake : (name ++ after).takeWhile KeyPath.isBare = name := by
    rw [List.takeWhile_append_of_pos h.all, hstop, List.append_nil]
  match name with
  | [] => exact absurd rfl h.ne_nil
  | c :: others =>
      have hc := h.all c List.mem_cons_self
      unfold KeyPath.single
      split
      · next heq => exact absurd (List.cons.inj heq).1 (ne_of_test hc rfl)
      · next heq => exact absurd (List.cons.inj heq).1 (ne_of_test hc rfl)
      · rw [htake]
        show some (String.ofList (c :: others), (c :: others ++ after).drop (c :: others).length) = _
        rw [List.drop_left]

theorem Bare.keyPath?_eq {name : List Char} (h : Bare name) {after rest : List Char} {mark : Char}
    (hstop : after.takeWhile KeyPath.isBare = []) (hafter : skipBlanks after = mark :: rest)
    (hdot : mark ≠ '.') : keyPath? (name ++ after) = some ([String.ofList name], mark :: rest) := by
  have hskip : skipBlanks (name ++ after) = name ++ after := by
    match name with
    | [] => exact absurd rfl h.ne_nil
    | c :: others => exact skipBlanks_cons (isBlank_of_isBare (h.all c List.mem_cons_self)) _
  rw [keyPath?, KeyPath.upTo, hskip, h.single_eq hstop]
  simp only [Option.bind_eq_bind, Option.bind_some, hafter]
  split
  · next heq => exact absurd (List.cons.inj heq).1 hdot
  · rfl

namespace Document

/-- A part of a text that reads as these lines, whatever follows it. No line is empty, so the steps it takes
are bounded by its length. -/
def ReadsAs (text : List Char) (found : List Line) : Prop :=
  ∃ steps ≤ text.length, ∀ fuel rest,
    lines (fuel + steps) (text ++ rest) = (lines fuel rest).map (found ++ ·)

theorem ReadsAs.append {first second : List Char} {found others : List Line} (h : ReadsAs first found)
    (hsecond : ReadsAs second others) : ReadsAs (first ++ second) (found ++ others) := by
  obtain ⟨steps, hsteps, hreads⟩ := h
  obtain ⟨more, hmore, hreadsSecond⟩ := hsecond
  refine ⟨more + steps, ?_, ?_⟩
  · rw [List.length_append]
    omega
  · intro fuel rest
    rw [← Nat.add_assoc, List.append_assoc, hreads, hreadsSecond, Option.map_map]
    congr 1
    funext later
    exact (List.append_assoc found others later).symm

theorem ReadsAs.lines_eq {text : List Char} {found : List Line} (h : ReadsAs text found) :
    lines (text.length + 1) text = some found := by
  obtain ⟨steps, hsteps, hreads⟩ := h
  have hlines := hreads (text.length - steps + 1) []
  rw [List.append_nil, show text.length - steps + 1 + steps = text.length + 1 by omega] at hlines
  rw [hlines, show lines (text.length - steps + 1) [] = some [] from rfl, Option.map_some, List.append_nil]

theorem readsAs_nil : ReadsAs [] [] :=
  ⟨0, Nat.le_refl 0, fun fuel rest => by simp⟩

theorem readsAs_newline : ReadsAs ['\n'] [] := by
  refine ⟨1, Nat.le_refl 1, fun fuel rest => ?_⟩
  have hmap : (lines fuel rest).map (([] : List Line) ++ ·) = lines fuel rest := Option.map_id'
  rw [hmap]
  rfl

/-- A text that begins a line that is not blank, and that reads as this line. -/
theorem readsAs_line {text tail : List Char} {c : Char} {found : Line} (htext : text = c :: tail)
    (hblank : isBlank c = false) (hmark : c ≠ '#') (hnewline : c ≠ '\n')
    (hline : ∀ rest, line (text ++ rest) = some (found, rest)) : ReadsAs text [found] := by
  refine ⟨1, by simp [htext], fun fuel rest => ?_⟩
  have hskip := skipBlanks_cons hblank (tail ++ rest)
  have hend : endLine? (c :: (tail ++ rest)) = none := by
    have hcomment : skipComment (c :: (tail ++ rest)) = c :: (tail ++ rest) := by
      unfold skipComment
      split
      · next heq => exact absurd (List.cons.inj heq).1 hmark
      · rfl
    rw [endLine?, hskip, hcomment]
    exact if_neg hnewline
  have hread := hline rest
  rw [htext, List.cons_append] at hread ⊢
  rw [lines, hskip]
  dsimp only
  rw [hend]
  dsimp only
  rw [hread]
  simp only [Option.bind_eq_bind, Option.bind_some]
  cases lines fuel rest <;> rfl

theorem readsAs_header {name : List Char} (h : Bare name) :
    ReadsAs ('[' :: name ++ [']', '\n']) [.header [String.ofList name]] := by
  refine readsAs_line rfl rfl (by decide) (by decide) fun rest => ?_
  have hpath : keyPath? (name ++ ']' :: '\n' :: rest) = some ([String.ofList name], ']' :: '\n' :: rest) :=
    h.keyPath?_eq rfl rfl (by decide)
  have hheader : header [']'] (name ++ ']' :: '\n' :: rest) = some ([String.ofList name], rest) := by
    rw [header, hpath]
    rfl
  rw [show '[' :: name ++ [']', '\n'] ++ rest = '[' :: (name ++ ']' :: '\n' :: rest) by simp]
  unfold line
  split
  · next heq =>
      match name with
      | [] => exact absurd rfl h.ne_nil
      | c :: others =>
          have hc : c ≠ '[' := ne_of_test (h.all c List.mem_cons_self) rfl
          exact absurd (List.cons.inj (List.cons.inj heq).2).1 hc
  · next heq =>
      rw [← (List.cons.inj heq).2, hheader]
      rfl
  · next hheader => exact absurd rfl (hheader _)

theorem readsAs_keyed {name text : List Char} {value : Value} (hname : Bare name) (h : Spells text value) :
    ReadsAs (name ++ ' ' :: '=' :: ' ' :: text ++ ['\n']) [.keyed [String.ofList name] value] := by
  match name with
  | [] => exact absurd rfl hname.ne_nil
  | c :: others =>
      have hc := hname.all c List.mem_cons_self
      refine readsAs_line rfl (isBlank_of_isBare hc) (ne_of_test hc rfl) (ne_of_test hc rfl) fun rest => ?_
      obtain ⟨hskip, hvalue⟩ := h rest
      have hpath : keyPath? (c :: others ++ ' ' :: '=' :: ' ' :: (text ++ '\n' :: rest)) =
          some ([String.ofList (c :: others)], '=' :: ' ' :: (text ++ '\n' :: rest)) :=
        hname.keyPath?_eq rfl rfl (by decide)
      have hkeyed : keyedValue (value? 79) (c :: others ++ ' ' :: '=' :: ' ' :: (text ++ '\n' :: rest)) =
          some (([String.ofList (c :: others)], value), '\n' :: rest) := by
        have hblank : skipBlanks (' ' :: (text ++ '\n' :: rest)) = text ++ '\n' :: rest := hskip
        simp only [keyedValue, hpath, Option.bind_eq_bind, Option.bind_some, hblank, hvalue]
        rfl
      rw [show c :: others ++ ' ' :: '=' :: ' ' :: text ++ ['\n'] ++ rest =
        c :: others ++ ' ' :: '=' :: ' ' :: (text ++ '\n' :: rest) by simp]
      unfold line
      split
      · next heq => exact absurd (List.cons.inj heq).1 (ne_of_test hc rfl)
      · next heq => exact absurd (List.cons.inj heq).1 (ne_of_test hc rfl)
      · rw [hkeyed]
        rfl

end Document

/-! ### Tables -/

theorem set_of_not_mem {key : String} {before : Entries} (h : key ∉ before.map Prod.fst) (value : Value) :
    before.set key value = before ++ [(key, value)] := by
  induction before with
  | nil => rfl
  | cons entry before ih =>
      rw [List.map_cons, List.mem_cons, not_or] at h
      rw [Entries.set, if_neg (Ne.symm h.1), ih h.2]
      rfl

theorem lookup_of_not_mem {key : String} {before : Entries} (h : key ∉ before.map Prod.fst) :
    before.lookup key = none := by
  rw [List.lookup_eq_none_iff]
  intro entry hentry
  rw [bne_iff_ne]
  rintro rfl
  exact h (List.mem_map_of_mem hentry)

/-- The entries as lines of a table, the path of each its key alone. -/
def Entries.lines (entries : Entries) : List (List String × Value) :=
  entries.map fun (key, value) => ([key], value)

namespace Table

/-- Keys that are new and differ from each other are added in their order. -/
theorem insertAll_append {entries before : Entries} (h : ((before ++ entries).map Prod.fst).Nodup) :
    insertAll entries.lines before = some (before ++ entries) := by
  induction entries generalizing before with
  | nil =>
      rw [List.append_nil]
      rfl
  | cons entry entries ih =>
      obtain ⟨key, value⟩ := entry
      have hnew : key ∉ before.map Prod.fst := by
        rw [List.map_append, List.map_cons] at h
        exact fun hmem => (List.nodup_append.mp h).2.2 key hmem key List.mem_cons_self rfl
      have hinsert : insert [] key value before = some (before ++ [(key, value)]) := by
        rw [insert, descend, lookup_of_not_mem hnew, set_of_not_mem hnew]
        rfl
      have hlater : insertAll (Entries.lines entries) (before ++ [(key, value)]) =
          some (before ++ [(key, value)] ++ entries) := ih (by rw [List.append_assoc]; exact h)
      rw [List.append_assoc] at hlater
      rw [insertAll, Entries.lines, List.map_cons, List.foldlM_cons]
      show (insert [] key value before).bind (insertAll (Entries.lines entries)) = _
      rw [hinsert]
      exact hlater

theorem addHeaded_append {name : String} {entries before : Entries} (hnew : name ∉ before.map Prod.fst)
    (h : (entries.map Prod.fst).Nodup) :
    addHeaded [name] entries.lines before = some (before ++ [(name, .table .headed entries)]) := by
  have hentries : insertAll entries.lines [] = some entries := insertAll_append h
  simp only [addHeaded, List.getLast?_singleton, Option.bind_eq_bind, Option.bind_some,
    List.dropLast_singleton, descend, lookup_of_not_mem hnew, hentries, set_of_not_mem hnew]
  rfl

end Table

/-! ### Documents -/

namespace Document

/-- A named group of entries, as the lines of a table under a header of its own. -/
def groupLines (group : String × Entries) : List Line :=
  .header [group.1] :: group.2.map fun (key, value) => .keyed [key] value

def groupSection (group : String × Entries) : Section :=
  .table [group.1] group.2.lines

def groupEntry (group : String × Entries) : String × Value :=
  (group.1, .table .headed group.2)

theorem sections_keyed (entries : Entries) (found : List Line) :
    sections (entries.map (fun (key, value) => .keyed [key] value) ++ found) =
      (entries.lines ++ (sections found).1, (sections found).2) := by
  induction entries with
  | nil => rfl
  | cons entry entries ih =>
      rw [List.map_cons, List.cons_append, sections, ih]
      rfl

theorem sections_groups (groups : List (String × Entries)) :
    sections (groups.flatMap groupLines) = ([], groups.map groupSection) := by
  induction groups with
  | nil => rfl
  | cons group groups ih =>
      rw [List.flatMap_cons, groupLines, List.cons_append, sections, sections_keyed, ih, List.append_nil]
      rfl

theorem foldlM_groups {groups : List (String × Entries)} {before : Entries}
    (hnames : (before.map Prod.fst ++ groups.map Prod.fst).Nodup)
    (hkeys : ∀ group ∈ groups, (group.2.map Prod.fst).Nodup) :
    (groups.map groupSection).foldlM Section.addTo before = some (before ++ groups.map groupEntry) := by
  induction groups generalizing before with
  | nil =>
      rw [List.map_nil, List.map_nil, List.append_nil]
      rfl
  | cons group groups ih =>
      have hnew : group.1 ∉ before.map Prod.fst :=
        fun hmem => (List.nodup_append.mp hnames).2.2 group.1 hmem group.1 List.mem_cons_self rfl
      have hadd : (groupSection group).addTo before = some (before ++ [groupEntry group]) :=
        Table.addHeaded_append hnew (hkeys group List.mem_cons_self)
      have hlater : (groups.map groupSection).foldlM Section.addTo (before ++ [groupEntry group]) =
          some (before ++ [groupEntry group] ++ groups.map groupEntry) := by
        refine ih ?_ fun other hother => hkeys other (List.mem_cons_of_mem group hother)
        rw [List.map_append, List.append_assoc]
        exact hnames
      rw [List.append_assoc] at hlater
      rw [List.map_cons, List.foldlM_cons, hadd]
      exact hlater

/-- A document of headers with keys under them describes their tables, if no name stands twice. -/
theorem ofLines_groups {groups : List (String × Entries)} (hnames : (groups.map Prod.fst).Nodup)
    (hkeys : ∀ group ∈ groups, (group.2.map Prod.fst).Nodup) :
    ofLines (groups.flatMap groupLines) = some (groups.map groupEntry) := by
  rw [ofLines, sections_groups]
  exact foldlM_groups hnames hkeys

theorem unifyNewlines_of_not_mem {text : List Char} (h : '\r' ∉ text) : unifyNewlines text = text := by
  induction text with
  | nil => rfl
  | cons c text ih =>
      rw [List.mem_cons, not_or] at h
      unfold unifyNewlines
      split
      · next heq => cases heq
      · next heq => exact absurd (List.cons.inj heq).1.symm h.1
      · next heq =>
          obtain ⟨rfl, rfl⟩ := List.cons.inj heq
          rw [ih h.2]

/-- What a text describes that reads as these lines and has neither a byte order mark nor carriage returns. -/
theorem ReadsAs.read?_eq {text : List Char} {found : List Line} (h : ReadsAs text found)
    (hmark : text.head? ≠ some '\uFEFF') (hreturn : '\r' ∉ text) :
    read? (String.ofList text) = ofLines found := by
  rw [read?, String.toList_ofList]
  split
  · exact absurd rfl hmark
  · rw [unifyNewlines_of_not_mem hreturn, h.lines_eq]
    rfl

end Document

end ScreenKeyboard.Toml
