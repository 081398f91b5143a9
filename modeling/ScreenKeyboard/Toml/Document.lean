import ScreenKeyboard.Toml.KeyPath
import ScreenKeyboard.Toml.Moment
import ScreenKeyboard.Toml.Number
import ScreenKeyboard.Toml.Table

/-!
TOML documents. A text is read into lines, each a path of keys and a value, in sections that begin with a
header; the sections are then put together into one table. Arrays and tables in braces are nested at most
79 deep.
-/

namespace ScreenKeyboard.Toml

/-- A reader of one value at the start of a text. -/
abbrev ValueReader := List Char → Option (Value × List Char)

/-- Reads the elements of an array up to its bracket; a comma may follow the last. -/
def arrayElements (read : ValueReader) : Nat → List Char → Option (List Value × List Char)
  | 0, _ => none
  | fuel + 1, text =>
    match skipLayout false text with
    | ']' :: rest => some ([], rest)
    | text => do
      let (value, rest) ← read text
      match skipLayout false rest with
      | ',' :: rest =>
        let (values, rest) ← arrayElements read fuel rest
        pure (value :: values, rest)
      | ']' :: rest => pure ([value], rest)
      | _ => none

/-- Reads a path of keys, an equals sign and a value. -/
def keyedValue (read : ValueReader) (text : List Char) : Option ((List String × Value) × List Char) := do
  let (path, rest) ← keyPath? text
  match rest with
  | '=' :: rest =>
    let (value, rest) ← read (skipBlanks rest)
    pure ((path, value), rest)
  | _ => none

/-- Reads the lines of a table in braces, at least one, up to its brace; no comma follows the last. -/
def bracedLines (read : ValueReader) : Nat → List Char → Option (List (List String × Value) × List Char)
  | 0, _ => none
  | fuel + 1, text => do
    let (line, rest) ← keyedValue read text
    match skipBlanks rest with
    | ',' :: rest =>
      let (lines, rest) ← bracedLines read fuel rest
      pure (line :: lines, rest)
    | '\x7d' :: rest => pure ([line], rest)
    | _ => none

/-- Reads a table in braces after its opening brace. -/
def bracedTable (read : ValueReader) (text : List Char) : Option (Value × List Char) :=
  match skipBlanks text with
  | '\x7d' :: rest => some (.table .braced [], rest)
  | _ => do
    let (lines, rest) ← bracedLines read (text.length + 1) text
    pure (.table .braced (← Table.insertAll lines []), rest)

/-- Reads a value in which arrays and tables are nested at most `depth` deep. -/
def value? (depth : Nat) (text : List Char) : Option (Value × List Char) :=
  match text with
  | '[' :: rest =>
    match depth with
    | 0 => none
    | depth + 1 => do
      let (values, rest) ← arrayElements (value? depth) (rest.length + 1) rest
      pure (.array values, rest)
  | '\x7b' :: rest =>
    match depth with
    | 0 => none
    | depth + 1 => bracedTable (value? depth) rest
  | '"' :: _ | '\'' :: _ => (quotedString? text).map fun (s, rest) => (.string (String.ofList s), rest)
  | 't' :: 'r' :: 'u' :: 'e' :: rest => some (.boolean true, rest)
  | 'f' :: 'a' :: 'l' :: 's' :: 'e' :: rest => some (.boolean false, rest)
  | _ =>
    match moment? text with
    | some (m, rest) => some (.moment m, rest)
    | none => number? text

/-- A part of a document that adds to its table. -/
inductive Section
  | table (path : List String) (lines : List (List String × Value))
  | element (path : List String) (lines : List (List String × Value))

def Section.addTo (entries : Entries) : Section → Option Entries
  | table path lines => Table.addHeaded path lines entries
  | element path lines => Table.addElement path lines entries

namespace Document

inductive Line
  | keyed (path : List String) (value : Value)
  | header (path : List String)
  | elementHeader (path : List String)

/-- Reads the rest of a header after its opening brackets. -/
def header (closing : List Char) (text : List Char) : Option (List String × List Char) := do
  let (path, rest) ← keyPath? text
  if closing.isPrefixOf rest then
    pure (path, ← endLine? (rest.drop closing.length))
  else none

/-- Reads a line that is not blank. -/
def line (text : List Char) : Option (Line × List Char) :=
  match text with
  | '[' :: '[' :: rest => (header [']', ']'] rest).map fun (path, rest) => (.elementHeader path, rest)
  | '[' :: rest => (header [']'] rest).map fun (path, rest) => (.header path, rest)
  | _ => do
    let ((path, value), rest) ← keyedValue (value? 79) text
    pure (.keyed path value, ← endLine? rest)

/-- Reads every line. -/
def lines : Nat → List Char → Option (List Line)
  | 0, _ => none
  | fuel + 1, text =>
    match skipBlanks text with
    | [] => some []
    | text =>
      match endLine? text with
      | some rest => lines fuel rest
      | none => do
        let (line, rest) ← line text
        pure (line :: (← lines fuel rest))

/-- The lines before the first header, and the sections. -/
def sections : List Line → List (List String × Value) × List Section
  | [] => ([], [])
  | line :: rest =>
    let (leading, parts) := sections rest
    match line with
    | .keyed path value => ((path, value) :: leading, parts)
    | .header path => ([], .table path leading :: parts)
    | .elementHeader path => ([], .element path leading :: parts)

def ofLines (all : List Line) : Option Entries := do
  let (leading, parts) := sections all
  parts.foldlM Section.addTo (← Table.insertAll leading [])

/-- The table that a text describes, if it is a TOML document. A byte order mark may stand first. -/
def read? (text : String) : Option Entries := do
  let chars :=
    match text.toList with
    | '\uFEFF' :: rest => rest
    | chars => chars
  ofLines (← lines (chars.length + 1) (unifyNewlines chars))

end Document

end ScreenKeyboard.Toml
