import ScreenKeyboard.Settings.Basic
import ScreenKeyboard.Toml.Document

/-!
Settings from a TOML document. A setting that the document leaves out keeps its default and one that it has
must be of the right type; whatever else stands in the document is passed over. The two groups of settings
may also be written as arrays, which give the first settings of the group in their order.
-/

namespace ScreenKeyboard

namespace Settings

open Toml

def string? : Value → Option String
  | .string text => some text
  | _ => none

def boolean? : Value → Option Bool
  | .boolean b => some b
  | _ => none

def port? : Value → Option UInt16
  | .integer n => if 0 ≤ n ∧ n ≤ 65535 then some (UInt16.ofNat n.toNat) else none
  | _ => none

/-- A setting of a group: what the group says, if anything, in place of the default. -/
def setting (entries : Entries) (name : String) (read : Value → Option α) (default : α) : Option α :=
  match entries.lookup name with
  | none => some default
  | some value => read value

/-- The entries of a group of settings with these names. A date counts as an empty table. -/
def group? (names : List String) : Value → Option Entries
  | .table _ entries => some entries
  | .array values => some (names.zip values)
  | .tables elements => some (names.zip (elements.map (.table .headed)))
  | .moment _ => some []
  | _ => none

def keyboardNames : List String :=
  ["release_handlers_on_close"]

def viewerNames : List String :=
  ["host", "port", "path", "token", "encrypt", "shared", "view_only", "scale", "resize", "repeater_id",
    "password", "logging"]

def keyboardOf (entries : Entries) : Option KeyboardSettings := do
  let d : KeyboardSettings := {}
  pure { forgetful := ← setting entries "release_handlers_on_close" boolean? d.forgetful }

def viewerOf (entries : Entries) : Option ViewerSettings := do
  let d : ViewerSettings := {}
  pure {
    host := ← setting entries "host" string? d.host
    port := ← setting entries "port" port? d.port
    path := ← setting entries "path" string? d.path
    token := ← setting entries "token" (fun v => (string? v).map some) d.token
    encrypt := ← setting entries "encrypt" (fun v => (boolean? v).map some) d.encrypt
    shared := ← setting entries "shared" boolean? d.shared
    viewOnly := ← setting entries "view_only" boolean? d.viewOnly
    scale := ← setting entries "scale" boolean? d.scale
    resize := ← setting entries "resize" boolean? d.resize
    repeaterId := ← setting entries "repeater_id" string? d.repeaterId
    password := ← setting entries "password" string? d.password
    logging := ← setting entries "logging" string? d.logging }

/-- The settings that a document describes. -/
def ofEntries (entries : Entries) : Option Settings := do
  let keyboard ← setting entries "keyboard" (fun v => (group? keyboardNames v).bind keyboardOf) {}
  let viewer ← setting entries "viewer" (fun v => (group? viewerNames v).bind viewerOf) {}
  pure { keyboard, viewer }

/-- The settings that a text describes, if it is a document with settings of the right types. -/
def read? (text : String) : Option Settings :=
  (Document.read? text).bind ofEntries

end Settings

end ScreenKeyboard
