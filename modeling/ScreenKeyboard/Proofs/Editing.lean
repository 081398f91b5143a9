import Mathlib.Tactic.SplitIfs
import ScreenKeyboard.Terminal.LineEditor

/-!
The line editor as a text in two parts. The editor counts characters from the start of its text; `SplitText` has no
positions, only what stands before the cursor and what stands after it. Both take the same values to the same text
and cursor (`editing_along_run`). So the cursor never leaves the text, no character is inserted or removed outside of
it (`take?`, which would refuse to), and the text can always be cut at the cursor's byte.
-/

namespace ScreenKeyboard.Terminal

/-- A text in two parts: what stands before a cursor and what stands after it. -/
structure SplitText where
  before : List Char
  after : List Char
  deriving DecidableEq, Repr

namespace SplitText

def insert (sides : SplitText) (c : Char) : SplitText :=
  { sides with before := sides.before ++ [c] }

def erase (sides : SplitText) : SplitText :=
  { sides with before := sides.before.dropLast }

def left (sides : SplitText) : SplitText :=
  match sides.before.getLast? with
  | some c => ⟨sides.before.dropLast, c :: sides.after⟩
  | none => sides

def right (sides : SplitText) : SplitText :=
  match sides.after with
  | c :: rest => ⟨sides.before ++ [c], rest⟩
  | [] => sides

/-- Takes a value that the keyboard reported. -/
def apply (sides : SplitText) (value : String) : SplitText :=
  match value with
  | "Backspace" => sides.erase
  | "Left" => sides.left
  | "Right" => sides.right
  | "Tab" => sides.insert '\t'
  | _ =>
    match value.toList with
    | [c] => sides.insert c
    | _ => sides

/-- The editor with this text before and after its cursor. -/
def editor (sides : SplitText) : LineEditor where
  text := sides.before ++ sides.after
  cursor := sides.before.length

end SplitText

namespace LineEditor

/-! ### Edits within the text -/

/-- The text with a character put in at a position, if the text reaches up to it. -/
def insertAt? (text : List Char) (position : Nat) (c : Char) : Option (List Char) :=
  if position ≤ text.length then some (text.take position ++ c :: text.drop position) else none

/-- The text without the characters from `start` up to `stop`, if it has these. -/
def removeRange? (text : List Char) (start stop : Nat) : Option (List Char) :=
  if start ≤ stop ∧ stop ≤ text.length then some (text.take start ++ text.drop stop) else none

def insert? (editor : LineEditor) (c : Char) : Option LineEditor :=
  (insertAt? editor.text editor.cursor c).map fun text => { text, cursor := editor.cursor + 1 }

def erase? (editor : LineEditor) : Option LineEditor :=
  if editor.cursor = 0 then some editor
  else
    (removeRange? editor.text (editor.cursor - 1) editor.cursor).map fun text =>
      { text, cursor := editor.cursor - 1 }

/-- As `apply`, but nothing if a character would be inserted or removed outside of the text. -/
def take? (editor : LineEditor) (value : String) : Option LineEditor :=
  if value = "Backspace" then editor.erase?
  else if value = "Left" then some { editor with cursor := editor.cursor - 1 }
  else if value = "Right" then some { editor with cursor := min (editor.cursor + 1) editor.text.length }
  else if value = "Tab" then editor.insert? '\t'
  else
    match value.toList with
    | [c] => editor.insert? c
    | _ => some editor

variable {editor : LineEditor}

theorem insert?_eq (h : editor.cursor ≤ editor.text.length) (c : Char) :
    editor.insert? c = some (editor.insert c) := by
  rw [insert?, insertAt?, if_pos h]
  rfl

theorem erase?_eq (h : editor.cursor ≤ editor.text.length) : editor.erase? = some editor.erase := by
  rw [erase?, erase]
  split_ifs with hzero
  · rfl
  · have hcursor : editor.cursor - 1 + 1 = editor.cursor := Nat.succ_pred hzero
    rw [removeRange?, if_pos ⟨Nat.pred_le _, h⟩, List.eraseIdx_eq_take_drop_succ, hcursor]
    rfl

theorem take?_eq (h : editor.cursor ≤ editor.text.length) (value : String) :
    editor.take? value = some (editor.apply value) := by
  unfold take? apply
  split_ifs
  · exact erase?_eq h
  · rfl
  · rfl
  · exact insert?_eq h _
  · rcases value.toList with _ | ⟨c, _ | ⟨d, rest⟩⟩
    · rfl
    · exact insert?_eq h c
    · rfl

/-! ### The text on both sides of the cursor -/

theorem insert_editor (sides : SplitText) (c : Char) : sides.editor.insert c = (sides.insert c).editor := by
  simp [SplitText.editor, insert, before, after, SplitText.insert]

theorem erase_editor (sides : SplitText) : sides.editor.erase = sides.erase.editor := by
  obtain ⟨before, after⟩ := sides
  rcases List.eq_nil_or_concat before with rfl | ⟨init, c, rfl⟩
  · rfl
  · simp [SplitText.editor, erase, SplitText.erase, List.eraseIdx_append_of_length_le]

theorem left_editor (sides : SplitText) :
    { sides.editor with cursor := sides.editor.cursor - 1 } = sides.left.editor := by
  obtain ⟨before, after⟩ := sides
  rcases List.eq_nil_or_concat before with rfl | ⟨init, c, rfl⟩
  · rfl
  · simp [SplitText.editor, SplitText.left]

theorem right_editor (sides : SplitText) :
    { sides.editor with cursor := min (sides.editor.cursor + 1) sides.editor.text.length } =
      sides.right.editor := by
  obtain ⟨before, after⟩ := sides
  cases after with
  | nil => simp [SplitText.editor, SplitText.right]
  | cons c rest => simp [SplitText.editor, SplitText.right]

theorem apply_editor (sides : SplitText) (value : String) :
    sides.editor.apply value = (sides.apply value).editor := by
  unfold SplitText.apply
  split
  · exact erase_editor sides
  · exact left_editor sides
  · exact right_editor sides
  · exact insert_editor sides _
  · next herase hleft hright htab =>
      rw [apply, if_neg herase, if_neg hleft, if_neg hright, if_neg htab]
      rcases value.toList with _ | ⟨c, _ | ⟨d, rest⟩⟩
      · rfl
      · exact insert_editor sides c
      · rfl

theorem foldl_apply_editor (values : List String) (sides : SplitText) :
    values.foldl apply sides.editor = (values.foldl SplitText.apply sides).editor := by
  induction values generalizing sides with
  | nil => rfl
  | cons value rest ih => rw [List.foldl_cons, apply_editor, ih, List.foldl_cons]

theorem cursor_le_editor (sides : SplitText) : sides.editor.cursor ≤ sides.editor.text.length := by
  simp [SplitText.editor]

theorem exists_editor (h : editor.cursor ≤ editor.text.length) : ∃ sides : SplitText, editor = sides.editor := by
  refine ⟨⟨editor.before, editor.after⟩, ?_⟩
  simp [SplitText.editor, before, after, h]

theorem cursor_le_foldl (h : editor.cursor ≤ editor.text.length) (values : List String) :
    (values.foldl apply editor).cursor ≤ (values.foldl apply editor).text.length := by
  obtain ⟨sides, rfl⟩ := exists_editor h
  rw [foldl_apply_editor]
  exact cursor_le_editor _

theorem foldlM_take?_editor (values : List String) (sides : SplitText) :
    values.foldlM take? sides.editor = some (values.foldl apply sides.editor) := by
  induction values generalizing sides with
  | nil => rfl
  | cons value rest ih =>
      rw [List.foldlM_cons, take?_eq (cursor_le_editor sides), List.foldl_cons, apply_editor]
      exact ih (sides.apply value)

/-! ### The byte of the cursor -/

theorem charIndices_append (start : Nat) (before after : List Char) :
    (charIndices start (before ++ after))[before.length]? =
      after.head?.map (start + (String.ofList before).utf8ByteSize, ·) := by
  induction before generalizing start with
  | nil => cases after <;> rfl
  | cons c rest ih =>
      rw [List.cons_append, charIndices, List.length_cons, List.getElem?_cons_succ, ih, String.ofList_cons,
        String.utf8ByteSize_append, String.utf8ByteSize_singleton, Nat.add_assoc]

theorem cursorByte_editor (sides : SplitText) :
    sides.editor.cursorByte = (String.ofList sides.before).utf8ByteSize := by
  obtain ⟨before, after⟩ := sides
  simp only [cursorByte, SplitText.editor, charIndices_append]
  cases after with
  | nil => simp
  | cons c rest => simp

theorem cutAt?_append (first second : String) :
    cutAt? (first ++ second) first.utf8ByteSize = some (first, second) := by
  have valid : String.Pos.Raw.IsValid (first ++ second) first.rawEndPos :=
    String.Pos.Raw.isValid_iff_exists_append.mpr ⟨first, second, rfl, rfl⟩
  have found : (first ++ second).pos? first.rawEndPos = some ((first ++ second).pos first.rawEndPos valid) := by
    simp [String.pos?, String.Slice.pos?, String.pos, valid]
  have splits : ((first ++ second).pos first.rawEndPos valid).Splits first second := ⟨rfl, String.offset_pos⟩
  rw [cutAt?, show ⟨first.utf8ByteSize⟩ = first.rawEndPos from rfl, found, Option.map_some,
    splits.copy_sliceTo_eq, splits.copy_sliceFrom_eq]

theorem halves?_editor (sides : SplitText) :
    sides.editor.halves? = some (String.ofList sides.before, String.ofList sides.after) := by
  rw [halves?, cursorByte_editor, SplitText.editor, String.ofList_append, cutAt?_append]

/-- Whatever values it takes, the editor holds the text before and after its cursor and nothing else of the past: the
text is the one followed by the other, the cursor stands between them. No edit is outside of the text, and the text
that is drawn is cut at a boundary of characters into these two. -/
theorem editing_along_run (text : List Char) (values : List String) :
    let editor := values.foldl apply (ofText text)
    let sides := values.foldl SplitText.apply ⟨text, []⟩
    editor.text = sides.before ++ sides.after ∧ editor.cursor = sides.before.length ∧
    editor.cursor ≤ editor.text.length ∧
    values.foldlM take? (ofText text) = some editor ∧
    editor.halves? = some (String.ofList sides.before, String.ofList sides.after) := by
  intro editor sides
  have hstart : ofText text = SplitText.editor ⟨text, []⟩ := by
    rw [SplitText.editor, List.append_nil]
    rfl
  have heditor : editor = sides.editor := by
    rw [← foldl_apply_editor, ← hstart]
  rw [hstart, foldlM_take?_editor, ← hstart]
  refine ⟨by rw [heditor]; rfl, by rw [heditor]; rfl, ?_, rfl, ?_⟩
  · rw [heditor]
    exact cursor_le_editor sides
  · rw [heditor]
    exact halves?_editor sides

end LineEditor

end ScreenKeyboard.Terminal
