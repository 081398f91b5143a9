import ScreenKeyboard.Proofs.Documents

/-!
What a document says, line by line. However it is spelled, by a header and keys under it, by keys joined by dots
or by tables in braces, a line gives a value to a path of keys (`Document.statements`), and the table of a
document holds at a path what one of its lines gives to it (`Document.ofLines_at?`). Every step in which the
table is built adds what its lines say and leaves the rest alone (`Adds`).
-/

namespace ScreenKeyboard.Toml

/-! ### Values at paths -/

namespace Value

/-- The value at the end of a path of keys. No path leads into an array, also not into one of tables. -/
def at? : List String → Value → Option Value
  | [], value => some value
  | key :: path, .table _ entries => (entries.lookup key).bind (at? path)
  | _ :: _, _ => none

/-- Whether the value is all there, so that no later line adds to it. -/
def isClosed : Value → Bool
  | .table .braced _ => true
  | .table _ _ => false
  | .tables _ => false
  | _ => true

theorem at?_append (front back : List String) (value : Value) :
    value.at? (front ++ back) = (value.at? front).bind (at? back) := by
  induction front generalizing value with
  | nil => rfl
  | cons key front ih =>
      cases value with
      | table form entries =>
          simp only [List.cons_append, at?, Option.bind_assoc]
          exact congrArg (Option.bind _) (funext ih)
      | _ => rfl

end Value

namespace Entries

def at? (entries : Entries) : List String → Option Value
  | [] => none
  | key :: path => (entries.lookup key).bind (Value.at? path)

theorem lookup_cons (key other : String) (value : Value) (entries : Entries) :
    List.lookup other ((key, value) :: entries) = if other = key then some value else entries.lookup other := by
  rw [List.lookup_cons]
  by_cases h : other = key
  · rw [if_pos h, beq_iff_eq.mpr h]
  · rw [if_neg h, beq_eq_false_iff_ne.mpr h]

theorem lookup_set (entries : Entries) (key : String) (value : Value) (other : String) :
    (entries.set key value).lookup other = if other = key then some value else entries.lookup other := by
  induction entries with
  | nil => exact lookup_cons key other value []
  | cons entry rest ih =>
      obtain ⟨first, held⟩ := entry
      rw [set]
      by_cases hfirst : first = key
      · rw [if_pos hfirst, lookup_cons, lookup_cons, hfirst]
        by_cases hother : other = key
        · rw [if_pos hother, if_pos hother]
        · rw [if_neg hother, if_neg hother, if_neg hother]
      · rw [if_neg hfirst, lookup_cons, lookup_cons, ih]
        by_cases hother : other = first
        · rw [if_pos hother, if_pos hother, if_neg (hother ▸ hfirst)]
        · rw [if_neg hother, if_neg hother]

theorem at?_append {entries : Entries} {front back : List String} (h : front ≠ []) :
    entries.at? (front ++ back) = (entries.at? front).bind (Value.at? back) := by
  cases front with
  | nil => exact absurd rfl h
  | cons key front =>
      simp only [List.cons_append, at?, Option.bind_assoc]
      exact congrArg (Option.bind _) (funext (Value.at?_append front back))

end Entries

/-! ### Adding what lines say -/

/-- Of a path, that it leads through no array of tables. -/
def Unrepeated (found : List String → Option Value) (path : List String) : Prop :=
  ∀ front key back elements, path = front ++ key :: back → found front ≠ some (.tables elements)

/-- What is found at paths before and after these statements were added: the rest stays as it is. -/
structure Adds (said : List (List String × Value)) (before after : List String → Option Value) : Prop where
  keeps : ∀ path value, before path = some value → value.isClosed = true → after path = some value
  repeats : ∀ path elements, before path = some (.tables elements) → ∃ others, after path = some (.tables others)
  holds : ∀ path value, (path, value) ∈ said → Unrepeated after path → after path = some value
  comes : ∀ path value, after path = some value → value.isClosed = true → before path = some value ∨
    ∃ named given rest, (named, given) ∈ said ∧ path = named ++ rest ∧ given.at? rest = some value

/-- The statements with these keys before their paths. -/
def under (front : List String) (said : List (List String × Value)) : List (List String × Value) :=
  said.map fun (path, value) => (front ++ path, value)

namespace Adds

variable {said others : List (List String × Value)} {before after later : List String → Option Value}

theorem nothing (found : List String → Option Value) : Adds [] found found where
  keeps := fun _ _ h _ => h
  repeats := fun _ elements h => ⟨elements, h⟩
  holds := fun _ _ h => absurd h List.not_mem_nil
  comes := fun _ _ h _ => Or.inl h

theorem trans (h : Adds said before after) (hlater : Adds others after later)
    (closed : ∀ path value, (path, value) ∈ said → value.isClosed = true) : Adds (said ++ others) before later where
  keeps := fun path value hbefore hclosed =>
    hlater.keeps path value (h.keeps path value hbefore hclosed) hclosed
  repeats := by
    intro path elements hbefore
    obtain ⟨middle, hmiddle⟩ := h.repeats path elements hbefore
    exact hlater.repeats path middle hmiddle
  holds := by
    intro path value hsaid hpath
    rcases List.mem_append.mp hsaid with hfirst | hsecond
    -- an array of tables stays one, so a path that avoids them in the end avoided them before
    · refine hlater.keeps path value (h.holds path value hfirst ?_) (closed path value hfirst)
      intro front key back elements heq htables
      obtain ⟨others, hothers⟩ := hlater.repeats front elements htables
      exact hpath front key back others heq hothers
    · exact hlater.holds path value hsecond hpath
  comes := by
    intro path value hvalue hclosed
    rcases hlater.comes path value hvalue hclosed with hmiddle | ⟨named, given, rest, hmem, hpath, hgiven⟩
    · rcases h.comes path value hmiddle hclosed with hbefore | ⟨named, given, rest, hmem, hpath, hgiven⟩
      · exact Or.inl hbefore
      · exact Or.inr ⟨named, given, rest, List.mem_append_left _ hmem, hpath, hgiven⟩
    · exact Or.inr ⟨named, given, rest, List.mem_append_right _ hmem, hpath, hgiven⟩

/-- What is added under a key is added, if all that stands under other keys stays. -/
theorem under_key {key : String} (frame : ∀ path, (∀ rest, path ≠ key :: rest) → after path = before path)
    (h : Adds said (fun path => before (key :: path)) (fun path => after (key :: path))) :
    Adds (under [key] said) before after where
  keeps := by
    intro path value hbefore hclosed
    by_cases hkey : ∃ rest, path = key :: rest
    · obtain ⟨rest, rfl⟩ := hkey
      exact h.keeps rest value hbefore hclosed
    · rw [frame path (not_exists.mp hkey)]
      exact hbefore
  repeats := by
    intro path elements hbefore
    by_cases hkey : ∃ rest, path = key :: rest
    · obtain ⟨rest, rfl⟩ := hkey
      exact h.repeats rest elements hbefore
    · rw [frame path (not_exists.mp hkey)]
      exact ⟨elements, hbefore⟩
  holds := by
    intro path value hsaid hpath
    obtain ⟨⟨rest, given⟩, hmem, heq⟩ := List.mem_map.mp hsaid
    obtain ⟨rfl, rfl⟩ := Prod.mk.inj heq
    refine h.holds rest given hmem fun front next back elements hrest => ?_
    exact hpath (key :: front) next back elements (by rw [hrest]; rfl)
  comes := by
    intro path value hafter hclosed
    by_cases hkey : ∃ rest, path = key :: rest
    · obtain ⟨rest, rfl⟩ := hkey
      rcases h.comes rest value hafter hclosed with hbefore | ⟨named, given, back, hmem, hrest, hgiven⟩
      · exact Or.inl hbefore
      · exact Or.inr ⟨key :: named, given, back, List.mem_map.mpr ⟨(named, given), hmem, rfl⟩, by rw [hrest]; rfl,
          hgiven⟩
    · rw [frame path (not_exists.mp hkey)] at hafter
      exact Or.inl hafter

/-- Entries hold nothing at the empty path, so nothing is said of it. -/
theorem path_ne_nil {entries : Entries} (h : Adds said before entries.at?) {path : List String} {value : Value}
    (hmem : (path, value) ∈ said) : path ≠ [] := by
  rintro rfl
  have hnone := h.holds [] value hmem fun front key back elements heq => by simp at heq
  cases hnone

/-- What is added to the entries of a table that is not closed is added to the table. -/
theorem table {inner : Entries} {form : TableForm} (h : Adds said before inner.at?)
    (hopen : (Value.table form inner).isClosed = false) {whole : List String → Option Value}
    (hwhole : ∀ key path, whole (key :: path) = before (key :: path))
    (hroot : whole [] = none ∨ ∃ form entries, whole [] = some (.table form entries) ∧
      (Value.table form entries).isClosed = false) :
    Adds said whole (fun path => (Value.table form inner).at? path) where
  keeps := by
    intro path value hvalue hclosed
    cases path with
    | nil =>
        rcases hroot with hnone | ⟨form, entries, htable, hnot⟩
        · rw [hnone] at hvalue
          cases hvalue
        · rw [htable] at hvalue
          obtain rfl := Option.some.inj hvalue
          rw [hnot] at hclosed
          cases hclosed
    | cons key path => exact h.keeps (key :: path) value (hwhole key path ▸ hvalue) hclosed
  repeats := by
    intro path elements hvalue
    cases path with
    | nil =>
        rcases hroot with hnone | ⟨form, entries, htable, -⟩
        · rw [hnone] at hvalue
          cases hvalue
        · rw [htable] at hvalue
          cases hvalue
    | cons key path => exact h.repeats (key :: path) elements (hwhole key path ▸ hvalue)
  holds := by
    intro path value hmem hpath
    cases path with
    | nil => exact absurd rfl (h.path_ne_nil hmem)
    | cons key path =>
        refine h.holds (key :: path) value hmem fun front next back elements heq => ?_
        cases front with
        | nil => simp [Entries.at?]
        | cons first front => exact hpath (first :: front) next back elements heq
  comes := by
    intro path value hvalue hclosed
    cases path with
    | nil =>
        obtain rfl := Option.some.inj hvalue
        rw [hopen] at hclosed
        cases hclosed
    | cons key path =>
        rw [hwhole]
        exact h.comes (key :: path) value hvalue hclosed

/-- What is said of an array of tables is not found at any path, and nothing comes of it. -/
theorem tables (hpaths : ∀ path value, (path, value) ∈ said → path ≠ []) (elements : List Entries)
    {whole : List String → Option Value} (hwhole : ∀ path value, whole path = some value →
      path = [] ∧ value.isClosed = false) :
    Adds said whole (fun path => (Value.tables elements).at? path) where
  keeps := by
    intro path value hvalue hclosed
    rw [(hwhole path value hvalue).2] at hclosed
    cases hclosed
  repeats := by
    intro path others hvalue
    obtain ⟨rfl, -⟩ := hwhole path _ hvalue
    exact ⟨elements, rfl⟩
  holds := by
    intro path value hmem hpath
    cases path with
    | nil => exact absurd rfl (hpaths [] value hmem)
    | cons key path => exact absurd rfl (hpath [] key path elements rfl)
  comes := by
    intro path value hvalue hclosed
    cases path with
    | nil =>
        obtain rfl := Option.some.inj hvalue
        cases hclosed
    | cons key path => cases hvalue

end Adds

/-! ### Building the table -/

theorem under_nil (said : List (List String × Value)) : under [] said = said :=
  List.map_id' said

theorem under_append (front back : List String) (said : List (List String × Value)) :
    under (front ++ back) said = under front (under back said) := by
  simp [under, List.append_assoc]

namespace Adds

variable {said : List (List String × Value)} {entries next : Entries} {path : List String} {key : String}
  {value : Value}

/-- A value where nothing was. -/
theorem new {before : List String → Option Value} (hnone : ∀ path, before path = none) (value : Value) :
    Adds [([], value)] before (fun path => value.at? path) where
  keeps := fun path _ h => by rw [hnone path] at h; cases h
  repeats := fun path _ h => by rw [hnone path] at h; cases h
  holds := by
    intro path given hmem _
    obtain ⟨rfl, rfl⟩ := Prod.mk.inj (List.mem_singleton.mp hmem)
    rfl
  comes := fun path given h _ => Or.inr ⟨[], value, path, List.mem_singleton.mpr rfl, rfl, h⟩

theorem set (h : Adds said (fun path => entries.at? (key :: path)) (fun path => value.at? path)) :
    Adds (under [key] said) entries.at? (entries.set key value).at? := by
  refine under_key ?_ ?_
  · intro path hpath
    cases path with
    | nil => rfl
    | cons other rest =>
        have hother : other ≠ key := fun heq => hpath rest (heq ▸ rfl)
        rw [Entries.at?, Entries.at?, Entries.lookup_set, if_neg hother]
  · have hset : (fun path => (entries.set key value).at? (key :: path)) = fun path => value.at? path := by
      funext path
      rw [Entries.at?, Entries.lookup_set, if_pos rfl, Option.bind_some]
    rw [hset]
    exact h

/-- What is added to a table that is not there yet. -/
theorem set_new {inner : Entries} {form : TableForm} (habsent : entries.lookup key = none)
    (hopen : (Value.table form inner).isClosed = false) (h : Adds said (Entries.at? []) inner.at?) :
    Adds (under [key] said) entries.at? (entries.set key (.table form inner)).at? := by
  refine set (h.table hopen ?_ (Or.inl ?_)) <;> simp [Entries.at?, habsent]

/-- What is added to a table that is there. -/
theorem set_table {old inner : Entries} {form other : TableForm} (hold : entries.lookup key = some (.table other old))
    (hother : (Value.table other old).isClosed = false) (hopen : (Value.table form inner).isClosed = false)
    (h : Adds said old.at? inner.at?) :
    Adds (under [key] said) entries.at? (entries.set key (.table form inner)).at? := by
  refine set (h.table hopen ?_ (Or.inr ⟨other, old, ?_, hother⟩))
  · intro first path
    simp [Entries.at?, hold, Value.at?]
  · simp [Entries.at?, hold, Value.at?]

/-- What is added to an array of tables. -/
theorem set_tables {elements : List Entries} (hpaths : ∀ path value, (path, value) ∈ said → path ≠ [])
    (hold : entries.lookup key = none ∨ ∃ others, entries.lookup key = some (.tables others)) :
    Adds (under [key] said) entries.at? (entries.set key (.tables elements)).at? := by
  refine set (tables hpaths elements fun path value hvalue => ?_)
  rcases hold with hnone | ⟨others, hothers⟩
  · simp [Entries.at?, hnone] at hvalue
  · cases path with
    | nil =>
        simp only [Entries.at?, hothers, Option.bind_some, Value.at?, Option.some.injEq] at hvalue
        exact ⟨rfl, hvalue ▸ rfl⟩
    | cons first path => simp [Entries.at?, hothers, Value.at?] at hvalue

/-- What a change adds to a table is added under the path that leads there. -/
theorem descend {dotted : Bool} {change : TableForm → Entries → Option Entries}
    (hchange : ∀ form entries next, change form entries = some next → Adds said entries.at? next.at?)
    {form : TableForm} (h : Table.descend dotted change path form entries = some next) :
    Adds (under path said) entries.at? next.at? := by
  induction path generalizing form entries next with
  | nil =>
      rw [under_nil]
      exact hchange form entries next h
  | cons key path ih =>
      rw [show key :: path = [key] ++ path from rfl, under_append]
      rw [Table.descend] at h
      -- the table on the way is made, entered, or the last one of an array
      split at h
      · next habsent =>
          obtain ⟨inner, hinner, hnext⟩ := Option.bind_eq_some_iff.mp h
          obtain rfl := Option.some.inj hnext
          exact set_new habsent (by cases dotted <;> rfl) (ih hinner)
      · next other old hold =>
          split_ifs at h with hform
          obtain ⟨inner, hinner, hnext⟩ := Option.bind_eq_some_iff.mp h
          obtain rfl := Option.some.inj hnext
          have hopen : ∀ entries, (Value.table other entries).isClosed = false := by
            intro entries
            cases other with
            | braced => exact absurd (Or.inl rfl) hform
            | _ => rfl
          exact set_table hold (hopen old) (hopen inner) (ih hinner)
      · next elements hold =>
          split at h
          · cases h
          · obtain ⟨inner, hinner, hnext⟩ := Option.bind_eq_some_iff.mp h
            obtain rfl := Option.some.inj hnext
            exact set_tables (fun _ _ hmem => (ih hinner).path_ne_nil hmem) (Or.inr ⟨elements, hold⟩)
      · cases h

end Adds

namespace Table

variable {entries next : Entries} {path : List String} {lines : List (List String × Value)}

theorem adds_insert {key : String} {value : Value} (h : insert path key value entries = some next) :
    Adds [(path ++ [key], value)] entries.at? next.at? := by
  have hsaid : [(path ++ [key], value)] = under path [([key], value)] := rfl
  rw [hsaid]
  refine Adds.descend (fun form entries next hchange => ?_) h
  split_ifs at hchange with hform hheld
  obtain rfl := Option.some.inj hchange
  have habsent : entries.lookup key = none := Option.not_isSome_iff_eq_none.mp hheld
  exact Adds.set (Adds.new (fun path => by simp [Entries.at?, habsent]) value)

theorem adds_insertAll (closed : ∀ path value, (path, value) ∈ lines → value.isClosed = true)
    (h : insertAll lines entries = some next) : Adds lines entries.at? next.at? := by
  induction lines generalizing entries with
  | nil =>
      obtain rfl := Option.some.inj h
      exact Adds.nothing entries.at?
  | cons line lines ih =>
      obtain ⟨path, value⟩ := line
      rw [insertAll, List.foldlM_cons] at h
      obtain ⟨middle, hfirst, hrest⟩ := Option.bind_eq_some_iff.mp h
      obtain ⟨key, hkey, hinsert⟩ := Option.bind_eq_some_iff.mp hfirst
      have hadds := adds_insert hinsert
      rw [List.dropLast_append_getLast? key hkey] at hadds
      refine hadds.trans (ih (fun path value hmem => closed path value (List.mem_cons_of_mem _ hmem)) hrest) ?_
      intro other given hmem
      exact closed other given (List.mem_singleton.mp hmem ▸ List.mem_cons_self)

theorem adds_addHeaded (closed : ∀ path value, (path, value) ∈ lines → value.isClosed = true)
    (h : addHeaded path lines entries = some next) : Adds (under path lines) entries.at? next.at? := by
  obtain ⟨key, hkey, hdescend⟩ := Option.bind_eq_some_iff.mp h
  rw [← List.dropLast_append_getLast? key hkey, under_append]
  refine Adds.descend (fun form entries next hchange => ?_) hdescend
  split at hchange
  · next habsent =>
      obtain ⟨inner, hinner, hnext⟩ := Option.bind_eq_some_iff.mp hchange
      obtain rfl := Option.some.inj hnext
      exact Adds.set_new habsent rfl (adds_insertAll closed hinner)
  · next old hold =>
      obtain ⟨inner, hinner, hnext⟩ := Option.bind_eq_some_iff.mp hchange
      obtain rfl := Option.some.inj hnext
      exact Adds.set_table hold rfl rfl (adds_insertAll closed hinner)
  · cases hchange

/-- The tables of an array have no paths, so a further one adds nothing. -/
theorem adds_addElement (h : addElement path lines entries = some next) : Adds [] entries.at? next.at? := by
  obtain ⟨key, hkey, hdescend⟩ := Option.bind_eq_some_iff.mp h
  have hnothing : ∀ path (value : Value), (path, value) ∈ ([] : List (List String × Value)) → path ≠ [] :=
    fun _ _ hmem => absurd hmem List.not_mem_nil
  have hadds : Adds (under path.dropLast []) entries.at? next.at? := by
    refine Adds.descend (fun form entries next hchange => ?_) hdescend
    split at hchange
    · next habsent =>
        obtain ⟨inner, hinner, hnext⟩ := Option.bind_eq_some_iff.mp hchange
        obtain rfl := Option.some.inj hnext
        exact Adds.set_tables hnothing (Or.inl habsent)
    · next others hold =>
        obtain ⟨inner, hinner, hnext⟩ := Option.bind_eq_some_iff.mp hchange
        obtain rfl := Option.some.inj hnext
        exact Adds.set_tables hnothing (Or.inr ⟨others, hold⟩)
    · cases hchange
  exact hadds

end Table

/-! ### Documents -/

/-- What the lines of a section say. The tables of an array have no paths. -/
def Section.statements : Section → List (List String × Value)
  | .table path lines => under path lines
  | .element _ _ => []

/-- The lines of a section. -/
def Section.lines : Section → List (List String × Value)
  | .table _ lines => lines
  | .element _ lines => lines

namespace Document

/-- What lines say that follow this header, or that follow a header in double brackets. -/
def statementsUnder : Option (List String) → List Line → List (List String × Value)
  | _, [] => []
  | header, .keyed path value :: rest =>
    (header.map fun header => (header ++ path, value)).toList ++ statementsUnder header rest
  | _, .header path :: rest => statementsUnder (some path) rest
  | _, .elementHeader _ :: rest => statementsUnder none rest

/-- What the lines of a document say: which value is given to which path. -/
def statements (all : List Line) : List (List String × Value) :=
  statementsUnder (some []) all

theorem statementsUnder_eq (header : Option (List String)) (all : List Line) :
    statementsUnder header all = (header.map fun header => under header (sections all).1).getD [] ++
      (sections all).2.flatMap Section.statements := by
  induction all generalizing header with
  | nil => cases header <;> rfl
  | cons line rest ih =>
      cases line with
      | keyed path value =>
          rw [statementsUnder, ih]
          cases header <;> rfl
      | header path =>
          rw [statementsUnder, ih]
          cases header <;> rfl
      | elementHeader path =>
          rw [statementsUnder, ih]
          cases header <;> rfl

theorem statements_eq (all : List Line) :
    statements all = (sections all).1 ++ (sections all).2.flatMap Section.statements := by
  rw [statements, statementsUnder_eq, Option.map_some, Option.getD_some, under_nil]

/-- Of lines, that they give closed values only. -/
def GiveClosed (all : List Line) : Prop :=
  ∀ path value, .keyed path value ∈ all → value.isClosed = true

theorem GiveClosed.sections {all : List Line} (h : GiveClosed all) :
    (∀ path value, (path, value) ∈ (sections all).1 → value.isClosed = true) ∧
      ∀ part ∈ (Document.sections all).2, ∀ path value, (path, value) ∈ part.lines → value.isClosed = true := by
  induction all with
  | nil => exact ⟨fun _ _ hmem => absurd hmem List.not_mem_nil, fun _ hmem => absurd hmem List.not_mem_nil⟩
  | cons line rest ih =>
      obtain ⟨hleading, hparts⟩ := ih fun path value hmem => h path value (List.mem_cons_of_mem _ hmem)
      cases line with
      | keyed path value =>
          refine ⟨fun other given hmem => ?_, hparts⟩
          rcases List.mem_cons.mp hmem with heq | hlater
          · obtain ⟨rfl, rfl⟩ := Prod.mk.inj heq
            exact h other given List.mem_cons_self
          · exact hleading other given hlater
      | _ =>
          refine ⟨fun _ _ hmem => absurd hmem List.not_mem_nil, fun part hmem => ?_⟩
          rcases List.mem_cons.mp hmem with rfl | hlater
          · exact hleading
          · exact hparts part hlater

theorem adds_addTo {part : Section} {entries next : Entries}
    (closed : ∀ path value, (path, value) ∈ part.lines → value.isClosed = true)
    (h : part.addTo entries = some next) : Adds part.statements entries.at? next.at? := by
  cases part with
  | table path lines => exact Table.adds_addHeaded closed h
  | element path lines => exact Table.adds_addElement h

theorem adds_parts {parts : List Section} {entries next : Entries}
    (closed : ∀ part ∈ parts, ∀ path value, (path, value) ∈ part.lines → value.isClosed = true)
    (h : parts.foldlM Section.addTo entries = some next) :
    Adds (parts.flatMap Section.statements) entries.at? next.at? := by
  induction parts generalizing entries with
  | nil =>
      obtain rfl := Option.some.inj h
      exact Adds.nothing entries.at?
  | cons part parts ih =>
      rw [List.foldlM_cons] at h
      obtain ⟨middle, hfirst, hrest⟩ := Option.bind_eq_some_iff.mp h
      have hpart := closed part List.mem_cons_self
      have hlater := ih (fun other hmem => closed other (List.mem_cons_of_mem _ hmem)) hrest
      refine (adds_addTo hpart hfirst).trans hlater ?_
      intro path value hmem
      cases part with
      | table header lines =>
          obtain ⟨⟨rest, given⟩, hline, heq⟩ := List.mem_map.mp hmem
          obtain ⟨-, rfl⟩ := Prod.mk.inj heq
          exact hpart rest given hline
      | element header lines => exact absurd hmem List.not_mem_nil

theorem adds_ofLines {all : List Line} {entries : Entries} (closed : GiveClosed all)
    (h : ofLines all = some entries) : Adds (statements all) (Entries.at? []) entries.at? := by
  obtain ⟨hleading, hparts⟩ := closed.sections
  obtain ⟨middle, hfirst, hrest⟩ := Option.bind_eq_some_iff.mp h
  rw [statements_eq]
  exact (Table.adds_insertAll hleading hfirst).trans (adds_parts hparts hrest) hleading

/-- The table of a document holds a value at a path if and only if a line of the document says so, of this path or,
with a table in braces, of the paths that begin with a shorter one. -/
theorem ofLines_at? {all : List Line} {entries : Entries} (closed : GiveClosed all)
    (h : ofLines all = some entries) {path : List String} (hpath : Unrepeated entries.at? path) {value : Value}
    (hvalue : value.isClosed = true) :
    entries.at? path = some value ↔
      ∃ named given rest, (named, given) ∈ statements all ∧ path = named ++ rest ∧ given.at? rest = some value := by
  have hadds := adds_ofLines closed h
  constructor
  · intro hfound
    rcases hadds.comes path value hfound hvalue with hbefore | hsaid
    · cases path <;> cases hbefore
    · exact hsaid
  · rintro ⟨named, given, rest, hmem, rfl, hgiven⟩
    have hnamed : entries.at? named = some given := by
      refine hadds.holds named given hmem fun front key back elements heq => ?_
      exact hpath front key (back ++ rest) elements (by rw [heq, List.append_assoc]; rfl)
    rw [Entries.at?_append (hadds.path_ne_nil hmem), hnamed, Option.bind_some, hgiven]

end Document

/-! ### Reading -/

section Closed

variable {text rest : List Char} {value : Value}

theorem isClosed_of_read {given : Value} {after : List Char} (h : some (given, after) = some (value, rest))
    (hgiven : given.isClosed = true) : value.isClosed = true := by
  obtain ⟨rfl, -⟩ := Prod.mk.inj (Option.some.inj h)
  exact hgiven

theorem isClosed_float {negative : Bool} {digits : List Nat} {exponent : Int}
    (h : Number.float? negative digits exponent text = some (value, rest)) : value.isClosed = true := by
  rw [Number.float?] at h
  split_ifs at h
  exact isClosed_of_read h rfl

theorem isClosed_integer {negative : Bool} {whole : List Nat}
    (h : Number.finish.integer negative whole text = some (value, rest)) : value.isClosed = true := by
  rw [Number.finish.integer] at h
  split_ifs at h <;> exact isClosed_of_read h rfl

theorem isClosed_based {base : Nat} (h : Number.based base text = some (value, rest)) : value.isClosed = true := by
  obtain ⟨⟨digits, after⟩, -, hread⟩ := Option.bind_eq_some_iff.mp h
  dsimp only at hread
  split_ifs at hread
  exact isClosed_of_read hread rfl

theorem isClosed_finish {negative : Bool} {whole : List Nat}
    (h : Number.finish negative whole text = some (value, rest)) : value.isClosed = true := by
  unfold Number.finish at h
  split at h
  · obtain ⟨⟨fraction, after⟩, -, hread⟩ := Option.bind_eq_some_iff.mp h
    dsimp only at hread
    split at hread
    · split_ifs at hread
      · obtain ⟨⟨e, last⟩, -, hfloat⟩ := Option.bind_eq_some_iff.mp hread
        exact isClosed_float hfloat
      · exact isClosed_float hread
    · exact isClosed_float hread
  · split at h
    · split_ifs at h
      · obtain ⟨⟨e, last⟩, -, hfloat⟩ := Option.bind_eq_some_iff.mp h
        exact isClosed_float hfloat
      · exact isClosed_integer h
    · exact isClosed_integer h

theorem isClosed_number (h : number? text = some (value, rest)) : value.isClosed = true := by
  unfold number? at h
  split at h
  · exact isClosed_based h
  · exact isClosed_based h
  · exact isClosed_based h
  · dsimp only at h
    split at h
    · exact isClosed_of_read h rfl
    · exact isClosed_of_read h rfl
    · obtain ⟨⟨whole, after⟩, -, hread⟩ := Option.bind_eq_some_iff.mp h
      exact isClosed_finish hread

theorem isClosed_braced {read : ValueReader} (h : bracedTable read text = some (value, rest)) :
    value.isClosed = true := by
  unfold bracedTable at h
  split at h
  · exact isClosed_of_read h rfl
  · obtain ⟨⟨lines, after⟩, -, hlines⟩ := Option.bind_eq_some_iff.mp h
    obtain ⟨entries, -, hread⟩ := Option.bind_eq_some_iff.mp hlines
    exact isClosed_of_read hread rfl

theorem isClosed_quoted {read : List Char → Option (List Char × List Char)}
    (h : ((read text).map fun (s, rest) => (Value.string (String.ofList s), rest)) = some (value, rest)) :
    value.isClosed = true := by
  obtain ⟨⟨string, after⟩, -, hread⟩ := Option.map_eq_some_iff.mp h
  exact isClosed_of_read (congrArg some hread) rfl

theorem isClosed_value {depth : Nat} (h : value? depth text = some (value, rest)) : value.isClosed = true := by
  unfold value? at h
  split at h
  · cases depth with
    | zero => cases h
    | succ depth =>
        obtain ⟨⟨values, after⟩, -, hread⟩ := Option.bind_eq_some_iff.mp h
        exact isClosed_of_read hread rfl
  · cases depth with
    | zero => cases h
    | succ depth => exact isClosed_braced h
  · exact isClosed_quoted h
  · exact isClosed_quoted h
  · exact isClosed_of_read h rfl
  · exact isClosed_of_read h rfl
  · split at h
    · exact isClosed_of_read h rfl
    · exact isClosed_number h

end Closed

namespace Document

theorem isClosed_line {text rest : List Char} {found : Line} (h : line text = some (found, rest)) :
    ∀ path value, found = .keyed path value → value.isClosed = true := by
  unfold line at h
  split at h
  · obtain ⟨⟨path, after⟩, -, hread⟩ := Option.map_eq_some_iff.mp h
    obtain ⟨rfl, -⟩ := Prod.mk.inj hread
    exact fun _ _ heq => by cases heq
  · obtain ⟨⟨path, after⟩, -, hread⟩ := Option.map_eq_some_iff.mp h
    obtain ⟨rfl, -⟩ := Prod.mk.inj hread
    exact fun _ _ heq => by cases heq
  · obtain ⟨⟨⟨path, value⟩, after⟩, hkeyed, hread⟩ := Option.bind_eq_some_iff.mp h
    obtain ⟨last, -, hline⟩ := Option.bind_eq_some_iff.mp hread
    obtain ⟨rfl, -⟩ := Prod.mk.inj (Option.some.inj hline)
    rintro path value ⟨⟩
    obtain ⟨⟨keys, tail⟩, -, hvalue⟩ := Option.bind_eq_some_iff.mp hkeyed
    dsimp only at hvalue
    split at hvalue
    · obtain ⟨⟨given, tail⟩, hgiven, heq⟩ := Option.bind_eq_some_iff.mp hvalue
      obtain ⟨hpair, -⟩ := Prod.mk.inj (Option.some.inj heq)
      obtain ⟨-, rfl⟩ := Prod.mk.inj hpair
      exact isClosed_value hgiven
    · cases hvalue

theorem giveClosed_lines {fuel : Nat} {text : List Char} {all : List Line} (h : lines fuel text = some all) :
    GiveClosed all := by
  induction fuel generalizing text all with
  | zero => cases h
  | succ fuel ih =>
      rw [lines] at h
      split at h
      · obtain rfl := Option.some.inj h
        exact fun _ _ hmem => absurd hmem List.not_mem_nil
      · split at h
        · exact ih h
        · obtain ⟨⟨found, rest⟩, hline, hread⟩ := Option.bind_eq_some_iff.mp h
          obtain ⟨later, hlater, heq⟩ := Option.bind_eq_some_iff.mp hread
          obtain rfl := Option.some.inj heq
          intro path value hmem
          rcases List.mem_cons.mp hmem with hfirst | hrest
          · exact isClosed_line hline path value hfirst.symm
          · exact ih hlater path value hrest

/-- The lines of a text, which a byte order mark may precede. -/
def lines? (text : String) : Option (List Line) :=
  let chars :=
    match text.toList with
    | '\uFEFF' :: rest => rest
    | chars => chars
  lines (chars.length + 1) (unifyNewlines chars)

theorem read?_eq (text : String) : read? text = (lines? text).bind ofLines :=
  rfl

end Document

end ScreenKeyboard.Toml
