import ScreenKeyboard.Toml.Value

/-!
Building tables from paths of keys. Every step either adds something new or fails: no key is given two
values, and no line adds to a table whose form does not allow it.
-/

namespace ScreenKeyboard.Toml

namespace Table

/-- Changes the table at the end of a path from `entries`, making the tables on the way that do not exist.
Dotted keys make other tables than headers do and do not pass through a table with a header of its own. In
an array of tables the last one is meant. -/
def descend (dotted : Bool) (change : TableForm → Entries → Option Entries) :
    List String → TableForm → Entries → Option Entries
  | [], form, entries => change form entries
  | key :: path, _, entries =>
    match entries.lookup key with
    | none => do
      let form := if dotted then .dotted else .implied
      let inner ← descend dotted change path form []
      pure (entries.set key (.table form inner))
    | some (.table form inner) =>
      if form = .braced ∨ (dotted ∧ form = .headed) then none
      else do
        let inner ← descend dotted change path form inner
        pure (entries.set key (.table form inner))
    | some (.tables elements) =>
      match elements.getLast? with
      | none => none
      | some inner => do
        let inner ← descend dotted change path .headed inner
        pure (entries.set key (.tables (elements.dropLast ++ [inner])))
    | some _ => none

/-- Adds a key and its value to the table at the end of a path of dotted keys. Only a table that dotted
keys made takes an entry in this way, and such a table takes no other. -/
def insert (path : List String) (key : String) (value : Value) (entries : Entries) : Option Entries :=
  descend true
    (fun form entries =>
      if decide (form = .dotted) = path.isEmpty then none
      else if (entries.lookup key).isSome then none
      else some (entries.set key value))
    path .headed entries

/-- Adds every line, a path of keys and a value each. -/
def insertAll (lines : List (List String × Value)) (entries : Entries) : Option Entries :=
  lines.foldlM
    (fun entries (path, value) => do
      let key ← path.getLast?
      insert path.dropLast key value entries)
    entries

/-- Adds the table under a header: the lines up to the next header. A table that so far only appeared on
the way to others keeps what it has. -/
def addHeaded (path : List String) (lines : List (List String × Value)) (entries : Entries) :
    Option Entries := do
  let key ← path.getLast?
  descend false
    (fun _ entries =>
      match entries.lookup key with
      | none => do pure (entries.set key (.table .headed (← insertAll lines [])))
      | some (.table .implied inner) => do pure (entries.set key (.table .headed (← insertAll lines inner)))
      | some _ => none)
    path.dropLast .headed entries

/-- Adds one more table to an array of tables. -/
def addElement (path : List String) (lines : List (List String × Value)) (entries : Entries) :
    Option Entries := do
  let key ← path.getLast?
  descend false
    (fun _ entries =>
      match entries.lookup key with
      | none => do pure (entries.set key (.tables [← insertAll lines []]))
      | some (.tables elements) => do pure (entries.set key (.tables (elements ++ [← insertAll lines []])))
      | some _ => none)
    path.dropLast .headed entries

end Table

end ScreenKeyboard.Toml
