import ScreenKeyboard.Proofs.Documents
import ScreenKeyboard.Settings.Reading
import ScreenKeyboard.Settings.Writing

/-!
Settings are read as they were written (`read?_write`), whatever strings they hold. Every line of the document
reads as one entry (`Writes`), and looking the entries up gives the settings again (`ofEntries_groups`); what is
not set has no entry and comes back as its default, which is not to be set.
-/

namespace ScreenKeyboard

namespace Settings

open Toml Toml.Document

/-! ### Entries -/

def keyboardEntries (keyboard : KeyboardSettings) : Entries :=
  [("release_handlers_on_close", .boolean keyboard.forgetful)]

/-- The entries that are written for the viewer; what is not set is left out. -/
def viewerEntries (viewer : ViewerSettings) : Entries :=
  ("host", .string viewer.host) ::
  ("port", .integer viewer.port.toNat) ::
  ("path", .string viewer.path) ::
  ((viewer.token.map fun token => ("token", Value.string token)).toList ++
  ((viewer.encrypt.map fun encrypt => ("encrypt", Value.boolean encrypt)).toList ++
  [("shared", .boolean viewer.shared),
    ("view_only", .boolean viewer.viewOnly),
    ("scale", .boolean viewer.scale),
    ("resize", .boolean viewer.resize),
    ("repeater_id", .string viewer.repeaterId),
    ("password", .string viewer.password),
    ("logging", .string viewer.logging)]))

/-- The two groups of a document of settings. -/
def groups (settings : Settings) : List (String × Entries) :=
  [("keyboard", keyboardEntries settings.keyboard), ("viewer", viewerEntries settings.viewer)]

theorem nodup_viewerEntries (viewer : ViewerSettings) :
    ((viewerEntries viewer).map Prod.fst).Nodup := by
  cases htoken : viewer.token <;> cases hencrypt : viewer.encrypt <;>
    simp [viewerEntries, htoken, hencrypt]

theorem keyboardOf_entries (keyboard : KeyboardSettings) :
    keyboardOf (keyboardEntries keyboard) = some keyboard := rfl

theorem port?_toNat (port : UInt16) : port? (.integer port.toNat) = some port := by
  have hport : port.toNat < 65536 := port.toNat_lt
  rw [port?, if_pos (by omega), Int.toNat_natCast, UInt16.ofNat_toNat]

theorem viewerOf_entries (viewer : ViewerSettings) : viewerOf (viewerEntries viewer) = some viewer := by
  obtain ⟨host, port, path, token, encrypt⟩ := viewer
  cases token <;> cases encrypt <;>
    simp [viewerOf, viewerEntries, setting, List.lookup_cons, string?, boolean?, port?_toNat]

/-- The entries that are written describe the settings they were written for. -/
theorem ofEntries_groups (settings : Settings) :
    ofEntries (settings.groups.map groupEntry) = some settings := by
  simp [ofEntries, groups, groupEntry, setting, List.lookup_cons, group?, keyboardOf_entries,
    viewerOf_entries]

/-! ### Lines -/

/-- A text that reads as these entries, one a line, and has no carriage returns. -/
structure Writes (text : List Char) (entries : Entries) : Prop where
  reads : ReadsAs text (entries.map fun (key, value) => .keyed [key] value)
  unreturned : '\r' ∉ text

theorem writes_nil : Writes [] [] :=
  ⟨readsAs_nil, List.not_mem_nil⟩

theorem Writes.append {first second : List Char} {entries others : Entries} (h : Writes first entries)
    (hsecond : Writes second others) : Writes (first ++ second) (entries ++ others) where
  reads := by
    rw [List.map_append]
    exact h.reads.append hsecond.reads
  unreturned := by
    rw [List.mem_append, not_or]
    exact ⟨h.unreturned, hsecond.unreturned⟩

theorem writes_line {name : String} {text : List Char} {value : Value} (hname : Bare name.toList)
    (h : Spells text value) (unreturned : '\r' ∉ text) : Writes (line name text) [(name, value)] where
  reads := by
    have hkeyed := readsAs_keyed hname h
    rw [String.ofList_toList] at hkeyed
    simpa [line] using hkeyed
  unreturned := by
    have hplain : '\r' ∉ name.toList := fun hmem => absurd (hname.all _ hmem) (by decide)
    simp [line, hplain, unreturned]

theorem writes_string (name : String) (hname : Bare name.toList) (s : String) :
    Writes (line name (quote s)) [(name, .string s)] :=
  writes_line hname (spells_quote s) (return_not_mem_quote s)

theorem writes_boolean (name : String) (hname : Bare name.toList) (b : Bool) :
    Writes (line name (writeBool b)) [(name, .boolean b)] :=
  writes_line hname (spells_boolean b) (by cases b <;> decide)

theorem writes_number (name : String) (hname : Bare name.toList) {n : Nat} (hn : n < Nat.pow 2 63) :
    Writes (line name (Nat.toDigits 10 n)) [(name, .integer n)] := by
  refine writes_line hname (spells_toDigits hn) fun hmem => ?_
  exact absurd (Text.isDigit_of_mem_toDigits hmem) (by decide)

theorem writes_keyboard (keyboard : KeyboardSettings) :
    Writes (writeKeyboard keyboard) (keyboardEntries keyboard) :=
  writes_boolean "release_handlers_on_close" (by decide) keyboard.forgetful

theorem writes_token (token : Option String) :
    Writes (optionalLine "token" (token.map quote))
      (token.map fun token => ("token", Value.string token)).toList := by
  cases token with
  | none => exact writes_nil
  | some token => exact writes_string "token" (by decide) token

theorem writes_encrypt (encrypt : Option Bool) :
    Writes (optionalLine "encrypt" (encrypt.map writeBool))
      (encrypt.map fun encrypt => ("encrypt", Value.boolean encrypt)).toList := by
  cases encrypt with
  | none => exact writes_nil
  | some encrypt => exact writes_boolean "encrypt" (by decide) encrypt

theorem writes_viewer (viewer : ViewerSettings) : Writes (writeViewer viewer) (viewerEntries viewer) := by
  have hport : viewer.port.toNat < Nat.pow 2 63 := viewer.port.toNat_lt.trans (by decide)
  have hflags : Writes _ _ := (writes_boolean "shared" (by decide) viewer.shared).append <|
    (writes_boolean "view_only" (by decide) viewer.viewOnly).append <|
    (writes_boolean "scale" (by decide) viewer.scale).append <|
    (writes_boolean "resize" (by decide) viewer.resize).append <|
    (writes_string "repeater_id" (by decide) viewer.repeaterId).append <|
    (writes_string "password" (by decide) viewer.password).append <|
    writes_string "logging" (by decide) viewer.logging
  have hall : Writes _ _ := (writes_string "host" (by decide) viewer.host).append <|
    (writes_number "port" (by decide) hport).append <|
    (writes_string "path" (by decide) viewer.path).append <|
    (writes_token viewer.token).append <|
    (writes_encrypt viewer.encrypt).append hflags
  simp only [writeViewer, List.append_assoc]
  exact hall

/-! ### The document -/

/-- The text of a group under its header. -/
def groupText (name : String) (text : List Char) : List Char :=
  '[' :: name.toList ++ [']', '\n'] ++ text

theorem Writes.readsAs_group {text : List Char} {entries : Entries} (h : Writes text entries)
    (name : String) (hname : Bare name.toList) :
    ReadsAs (groupText name text) (groupLines (name, entries)) := by
  have hheader := readsAs_header hname
  rw [String.ofList_toList] at hheader
  exact hheader.append h.reads

theorem Writes.unreturned_group {text : List Char} {entries : Entries} (h : Writes text entries)
    (name : String) (hname : Bare name.toList) : '\r' ∉ groupText name text := by
  have hplain : '\r' ∉ name.toList := fun hmem => absurd (hname.all _ hmem) (by decide)
  simp [groupText, hplain, h.unreturned]

theorem write_eq (settings : Settings) :
    settings.write = String.ofList (groupText "keyboard" (writeKeyboard settings.keyboard) ++
      '\n' :: groupText "viewer" (writeViewer settings.viewer)) := by
  have hkeyboard : "[keyboard]\n".toList = '[' :: "keyboard".toList ++ [']', '\n'] := by decide
  have hviewer : "\n[viewer]\n".toList = '\n' :: '[' :: "viewer".toList ++ [']', '\n'] := by decide
  show String.ofList ("[keyboard]\n".toList ++ writeKeyboard settings.keyboard ++ "\n[viewer]\n".toList
    ++ writeViewer settings.viewer) = _
  simp only [hkeyboard, hviewer, groupText, List.append_assoc, List.cons_append]

/-- Settings are read as they were written, whatever strings they hold. -/
theorem read?_write (settings : Settings) : read? settings.write = some settings := by
  have hkeyboard := writes_keyboard settings.keyboard
  have hviewer := writes_viewer settings.viewer
  have hreads : ReadsAs (groupText "keyboard" (writeKeyboard settings.keyboard) ++
      '\n' :: groupText "viewer" (writeViewer settings.viewer)) (settings.groups.flatMap groupLines) := by
    have hfirst := hkeyboard.readsAs_group "keyboard" (by decide)
    have hsecond := readsAs_newline.append (hviewer.readsAs_group "viewer" (by decide))
    have hall := hfirst.append hsecond
    simpa [groups] using hall
  have hreturn : '\r' ∉ groupText "keyboard" (writeKeyboard settings.keyboard) ++
      '\n' :: groupText "viewer" (writeViewer settings.viewer) := by
    have hfirst := hkeyboard.unreturned_group "keyboard" (by decide)
    have hsecond := hviewer.unreturned_group "viewer" (by decide)
    simp [hfirst, hsecond]
  have hnames : (settings.groups.map Prod.fst).Nodup := by simp [groups]
  have hkeys : ∀ group ∈ settings.groups, (group.2.map Prod.fst).Nodup := by
    simp [groups, keyboardEntries, nodup_viewerEntries]
  have hmark : '[' ≠ '\uFEFF' := by decide
  have hdocument := hreads.read?_eq (fun h => hmark (Option.some.inj h)) hreturn
  rw [read?, write_eq, hdocument, ofLines_groups hnames hkeys]
  exact ofEntries_groups settings

end Settings

end ScreenKeyboard
