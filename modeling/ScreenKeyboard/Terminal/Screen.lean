import ScreenKeyboard.Terminal.App

/-!
What the terminal shows: three boxes below each other inside a margin of one cell, with the line editor, the
keys and the last message. Every character takes one cell, and what does not fit is cut off.
-/

namespace ScreenKeyboard.Terminal

inductive Color
  | plain
  | yellow
  | green
  | blue
  deriving DecidableEq, Repr

structure Look where
  foreground : Color := .plain
  background : Color := .plain
  bold : Bool := false
  deriving DecidableEq, Repr

structure Cell where
  char : Char
  look : Look
  deriving DecidableEq, Repr

namespace Screen

def cells (look : Look) (text : List Char) : List Cell :=
  text.map (⟨·, look⟩)

def blanks (look : Look) (count : Nat) : List Cell :=
  cells look (List.replicate count ' ')

/-- The row cut off or filled up with blanks to a width. -/
def fit (look : Look) (width : Nat) (row : List Cell) : List Cell :=
  row.take width ++ blanks look (width - row.length)

/-- A row of a box, between its borders. -/
def bordered (look : Look) (left right : Char) (inner : List Cell) : List Cell :=
  ⟨left, look⟩ :: inner ++ [⟨right, look⟩]

def rule (look : Look) (width : Nat) : List Cell :=
  cells look (List.replicate width '─')

/-- A box of a size with a title in its upper border and rows inside. -/
def box (look : Look) (width height : Nat) (title : String) (content : List (List Cell)) : List (List Cell) :=
  let inner := width - 2
  let top := (cells look title.toList).take inner
  let rows := content.take (height - 2)
  [bordered look '┌' '┐' (top ++ rule look (inner - top.length))]
    ++ rows.map (fun row => bordered look '│' '│' (fit look inner row))
    ++ List.replicate (height - 2 - rows.length) (bordered look '│' '│' (blanks look inner))
    ++ [bordered look '└' '┘' (rule look inner)]

/-- The line with a bar at the cursor. -/
def editorRow (editor : LineEditor) : List Cell :=
  match editor.halves? with
  | some (before, after) =>
    cells {} before.toList ++ [⟨'|', { foreground := .yellow }⟩] ++ cells {} after.toList
  | none => []

/-- How the key at an index looks: an engaged key is green, the selected one stands out. -/
def keyLook (app : App) (index : Nat) : Look where
  foreground := if (app.display.lit[index]?).getD false then .green else .plain
  background := if index = app.selected then .blue else .plain
  bold := index = app.selected

def keyCells (app : App) (index : Nat) : List Cell :=
  cells (keyLook app index) ('[' :: ((app.display.texts[index]?).getD "").toList ++ [']'])

def keyRows (app : App) : List (List Cell) :=
  app.display.rows.map fun row => row.indices.flatMap (keyCells app)

def boldLook : Look :=
  { bold := true }

/-- The rows of a screen of a size. -/
def draw (app : App) (columns rows : Nat) : List (List Cell) :=
  let width := columns - 2
  let height := rows - 8
  let margin := blanks {} columns
  let keys :=
    if app.display.visible then box {} width height "softboard" (keyRows app)
    else List.replicate height (blanks {} width)
  let parts :=
    box {} width 3 "field" [editorRow app.editor] ++ keys
      ++ box boldLook width 3 "" [cells boldLook app.message.toList]
  [margin] ++ parts.map (fun row => blanks {} 1 ++ row ++ blanks {} 1) ++ [margin]

/-- The text of a row, without white space at its end. -/
def lineText (row : List Cell) : List Char :=
  ((row.map (·.char)).reverse.dropWhile fun c => c = ' ' || c = '\t').reverse

/-- A stretch of neighbouring cells that look the same. -/
structure Run where
  column : Nat
  text : List Char
  look : Look
  deriving DecidableEq, Repr

/-- The stretches of a row from a column on. -/
def runs (column : Nat) : List Cell → List Run
  | [] => []
  | cell :: rest =>
    match runs (column + 1) rest with
    | [] => [⟨column, [cell.char], cell.look⟩]
    | run :: more =>
      if run.look = cell.look then ⟨column, cell.char :: run.text, cell.look⟩ :: more
      else ⟨column, [cell.char], cell.look⟩ :: run :: more

/-- The stretches of a row that do not look plain. -/
def styledRuns (row : List Cell) : List Run :=
  (runs 0 row).filter (·.look ≠ {})

end Screen

end ScreenKeyboard.Terminal
