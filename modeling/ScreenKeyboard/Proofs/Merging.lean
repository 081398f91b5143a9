import ScreenKeyboard.Proofs.Settings
import ScreenKeyboard.Proofs.Statements

/-!
Settings from a document that gives only some of them. A setting is what the document gives for it, in whatever
spelling, and its default if the document gives nothing; the settings can be read if and only if every one that
is given has its kind, and nothing else in the document matters (`read?_merges`).
-/

namespace ScreenKeyboard.Settings

open Toml

/-! ### Kinds of settings -/

inductive Kind
  | text
  | flag
  | port
  deriving DecidableEq, Repr

def Kind.admits : Kind → Value → Bool
  | .text, .string _ => true
  | .flag, .boolean _ => true
  | .port, .integer n => 0 ≤ n && n ≤ 65535
  | _, _ => false

def keyboardFields : List (String × Kind) :=
  [("release_handlers_on_close", .flag)]

def viewerFields : List (String × Kind) :=
  [("host", .text), ("port", .port), ("path", .text), ("token", .text), ("encrypt", .flag), ("shared", .flag),
    ("view_only", .flag), ("scale", .flag), ("resize", .flag), ("repeater_id", .text), ("password", .text),
    ("logging", .text)]

/-- Every setting: the path of keys under which a document gives it, and its kind. -/
def fields : List (List String × Kind) :=
  keyboardFields.map (fun (name, kind) => (["keyboard", name], kind)) ++
    viewerFields.map fun (name, kind) => (["viewer", name], kind)

/-! ### One setting -/

section Setting

variable {α : Type} {read : Value → Option α} {write : α → Option Value} {entries : Entries} {name : String}

/-- Of a way to read a setting, that it undoes a way to write it, in which a setting may also be left out. -/
structure Undoes (read : Value → Option α) (write : α → Option Value) : Prop where
  read_eq_some_iff : ∀ value x, read value = some x ↔ write x = some value
  injective : ∀ x y, write x = write y → x = y

/-- A setting is what is given for it and otherwise its default. -/
theorem setting_eq_some_iff (h : Undoes read write) {default x : α} :
    setting entries name read default = some x ↔ write x = (entries.lookup name).or (write default) := by
  rw [setting]
  cases entries.lookup name with
  | none =>
      rw [Option.some_inj, Option.none_or]
      exact ⟨fun heq => heq ▸ rfl, fun heq => (h.injective x default heq).symm⟩
  | some value =>
      rw [Option.some_or]
      exact h.read_eq_some_iff value x

theorem exists_setting {kind : Kind} (hkind : ∀ value, kind.admits value = true → ∃ x, read value = some x)
    (h : ∀ value, entries.lookup name = some value → kind.admits value = true) (default : α) :
    ∃ x, setting entries name read default = some x := by
  rw [setting]
  cases hvalue : entries.lookup name with
  | none => exact ⟨default, rfl⟩
  | some value => exact hkind value (h value hvalue)

theorem undoes_string : Undoes string? fun text => some (.string text) where
  read_eq_some_iff := by
    intro value text
    cases value <;> simp [string?, eq_comm]
  injective := by simp

theorem undoes_boolean : Undoes boolean? fun b => some (.boolean b) where
  read_eq_some_iff := by
    intro value b
    cases value <;> simp [boolean?, eq_comm]
  injective := by simp

theorem undoes_port : Undoes port? fun port => some (.integer port.toNat) where
  read_eq_some_iff := by
    intro value port
    constructor
    · intro h
      cases value with
      | integer n =>
          rw [port?] at h
          split_ifs at h with hn
          obtain rfl := Option.some.inj h
          have hmod : n.toNat % 2 ^ 16 = n.toNat := Nat.mod_eq_of_lt (by omega)
          rw [UInt16.toNat_ofNat', hmod, Int.toNat_of_nonneg hn.1]
      | _ => cases h
    · intro h
      rw [← Option.some.inj h]
      exact port?_toNat port
  injective := by
    intro x y h
    have htoNat : (x.toNat : Int) = y.toNat := by simpa using h
    exact UInt16.toNat_inj.mp (Int.ofNat_inj.mp htoNat)

theorem Undoes.optional {write : α → Value} (h : Undoes read fun x => some (write x)) :
    Undoes (fun value => (read value).map some) fun x : Option α => x.map write where
  read_eq_some_iff := by
    intro value x
    cases x with
    | none => simp
    | some x => simp [h.read_eq_some_iff]
  injective := by
    intro x y heq
    cases x <;> cases y <;> simp at heq ⊢
    exact h.injective _ _ (congrArg some heq)

theorem exists_string (value : Value) (h : Kind.text.admits value = true) : ∃ text, string? value = some text := by
  cases value <;> simp [Kind.admits] at h
  exact ⟨_, rfl⟩

theorem exists_boolean (value : Value) (h : Kind.flag.admits value = true) : ∃ b, boolean? value = some b := by
  cases value <;> simp [Kind.admits] at h
  exact ⟨_, rfl⟩

theorem exists_port (value : Value) (h : Kind.port.admits value = true) : ∃ port, port? value = some port := by
  cases value <;> simp [Kind.admits] at h
  exact ⟨_, if_pos h⟩

theorem exists_optional {kind : Kind} (h : ∀ value, kind.admits value = true → ∃ x, read value = some x)
    (value : Value) (hvalue : kind.admits value = true) : ∃ x, (read value).map some = some x := by
  obtain ⟨x, hx⟩ := h value hvalue
  exact ⟨some x, by rw [hx, Option.map_some]⟩

end Setting

/-! ### Groups of settings -/

section Group

variable {entries : Entries}

theorem keyboardOf_eq_some_iff {keyboard : KeyboardSettings} :
    keyboardOf entries = some keyboard ↔ ∀ name kind, (name, kind) ∈ keyboardFields →
      (keyboardEntries keyboard).lookup name = (entries.lookup name).or ((keyboardEntries {}).lookup name) := by
  have hfields : keyboardOf entries = some keyboard ↔
      setting entries "release_handlers_on_close" boolean? false = some keyboard.forgetful := by
    constructor
    · intro h
      obtain ⟨forgetful, hforgetful, hkeyboard⟩ := Option.bind_eq_some_iff.mp h
      obtain rfl := Option.some.inj hkeyboard
      exact hforgetful
    · intro h
      exact Option.bind_eq_some_iff.mpr ⟨keyboard.forgetful, h, rfl⟩
  rw [hfields, setting_eq_some_iff undoes_boolean]
  simp [keyboardFields, keyboardEntries]

theorem forall_viewerFields {P : String → Kind → Prop} :
    (∀ name kind, (name, kind) ∈ viewerFields → P name kind) ↔
      P "host" .text ∧ P "port" .port ∧ P "path" .text ∧ P "token" .text ∧ P "encrypt" .flag ∧ P "shared" .flag ∧
      P "view_only" .flag ∧ P "scale" .flag ∧ P "resize" .flag ∧ P "repeater_id" .text ∧ P "password" .text ∧
      P "logging" .text := by
  simp only [viewerFields, List.mem_cons, List.not_mem_nil, Prod.mk.injEq, or_false, or_imp, forall_and, and_imp,
    forall_eq, forall_eq_apply_imp_iff]

/-- The entries for the viewer, one by one. -/
theorem lookup_viewerEntries (viewer : ViewerSettings) :
    (viewerEntries viewer).lookup "host" = some (.string viewer.host) ∧
    (viewerEntries viewer).lookup "port" = some (.integer viewer.port.toNat) ∧
    (viewerEntries viewer).lookup "path" = some (.string viewer.path) ∧
    (viewerEntries viewer).lookup "token" = viewer.token.map .string ∧
    (viewerEntries viewer).lookup "encrypt" = viewer.encrypt.map .boolean ∧
    (viewerEntries viewer).lookup "shared" = some (.boolean viewer.shared) ∧
    (viewerEntries viewer).lookup "view_only" = some (.boolean viewer.viewOnly) ∧
    (viewerEntries viewer).lookup "scale" = some (.boolean viewer.scale) ∧
    (viewerEntries viewer).lookup "resize" = some (.boolean viewer.resize) ∧
    (viewerEntries viewer).lookup "repeater_id" = some (.string viewer.repeaterId) ∧
    (viewerEntries viewer).lookup "password" = some (.string viewer.password) ∧
    (viewerEntries viewer).lookup "logging" = some (.string viewer.logging) := by
  cases htoken : viewer.token <;> cases hencrypt : viewer.encrypt <;>
    simp [viewerEntries, htoken, hencrypt, List.lookup_cons]

/-- The settings of the viewer are read one by one. -/
theorem viewerOf_eq_iff_settings {viewer : ViewerSettings} : viewerOf entries = some viewer ↔
    setting entries "host" string? "" = some viewer.host ∧
    setting entries "port" port? 5901 = some viewer.port ∧
    setting entries "path" string? "websockify" = some viewer.path ∧
    setting entries "token" (fun v => (string? v).map some) none = some viewer.token ∧
    setting entries "encrypt" (fun v => (boolean? v).map some) none = some viewer.encrypt ∧
    setting entries "shared" boolean? true = some viewer.shared ∧
    setting entries "view_only" boolean? false = some viewer.viewOnly ∧
    setting entries "scale" boolean? true = some viewer.scale ∧
    setting entries "resize" boolean? false = some viewer.resize ∧
    setting entries "repeater_id" string? "" = some viewer.repeaterId ∧
    setting entries "password" string? "" = some viewer.password ∧
    setting entries "logging" string? "warn" = some viewer.logging := by
  constructor
  · intro h
    obtain ⟨host, hhost, h⟩ := Option.bind_eq_some_iff.mp h
    obtain ⟨port, hport, h⟩ := Option.bind_eq_some_iff.mp h
    obtain ⟨path, hpath, h⟩ := Option.bind_eq_some_iff.mp h
    obtain ⟨token, htoken, h⟩ := Option.bind_eq_some_iff.mp h
    obtain ⟨encrypt, hencrypt, h⟩ := Option.bind_eq_some_iff.mp h
    obtain ⟨shared, hshared, h⟩ := Option.bind_eq_some_iff.mp h
    obtain ⟨viewOnly, hviewOnly, h⟩ := Option.bind_eq_some_iff.mp h
    obtain ⟨scale, hscale, h⟩ := Option.bind_eq_some_iff.mp h
    obtain ⟨resize, hresize, h⟩ := Option.bind_eq_some_iff.mp h
    obtain ⟨repeaterId, hrepeaterId, h⟩ := Option.bind_eq_some_iff.mp h
    obtain ⟨password, hpassword, h⟩ := Option.bind_eq_some_iff.mp h
    obtain ⟨logging, hlogging, h⟩ := Option.bind_eq_some_iff.mp h
    obtain rfl := Option.some.inj h
    exact ⟨hhost, hport, hpath, htoken, hencrypt, hshared, hviewOnly, hscale, hresize, hrepeaterId, hpassword,
      hlogging⟩
  · rintro ⟨hhost, hport, hpath, htoken, hencrypt, hshared, hviewOnly, hscale, hresize, hrepeaterId, hpassword,
      hlogging⟩
    dsimp only [viewerOf]
    rw [hhost, hport, hpath, htoken, hencrypt, hshared, hviewOnly, hscale, hresize, hrepeaterId, hpassword, hlogging]
    rfl

theorem viewerOf_eq_some_iff {viewer : ViewerSettings} :
    viewerOf entries = some viewer ↔ ∀ name kind, (name, kind) ∈ viewerFields →
      (viewerEntries viewer).lookup name = (entries.lookup name).or ((viewerEntries {}).lookup name) := by
  rw [viewerOf_eq_iff_settings, forall_viewerFields]
  simp only [setting_eq_some_iff undoes_string, setting_eq_some_iff undoes_port, setting_eq_some_iff undoes_boolean,
    setting_eq_some_iff undoes_string.optional, setting_eq_some_iff undoes_boolean.optional, lookup_viewerEntries]

/-- Settings have their kinds, the defaults among them. -/
theorem admits_keyboardEntries (keyboard : KeyboardSettings) : ∀ name kind, (name, kind) ∈ keyboardFields →
    ∀ value, (keyboardEntries keyboard).lookup name = some value → kind.admits value = true := by
  simp [keyboardFields, keyboardEntries, Kind.admits]

theorem admits_viewerEntries (viewer : ViewerSettings) : ∀ name kind, (name, kind) ∈ viewerFields →
    ∀ value, (viewerEntries viewer).lookup name = some value → kind.admits value = true := by
  have hport : ∀ value, some (Value.integer viewer.port.toNat) = some value → Kind.port.admits value = true := by
    have hlt : viewer.port.toNat < 65536 := viewer.port.toNat_lt
    rintro _ ⟨⟩
    rw [Kind.admits, Bool.and_eq_true, decide_eq_true_iff, decide_eq_true_iff]
    omega
  have hencrypt : ∀ value, viewer.encrypt.map Value.boolean = some value → Kind.flag.admits value = true := by
    intro value hvalue
    obtain ⟨b, -, rfl⟩ := Option.map_eq_some_iff.mp hvalue
    rfl
  rw [forall_viewerFields]
  simp only [lookup_viewerEntries]
  refine ⟨?_, hport, ?_, ?_, hencrypt, ?_⟩ <;> simp [Kind.admits]

theorem exists_keyboardOf_iff : (∃ keyboard, keyboardOf entries = some keyboard) ↔
    ∀ name kind, (name, kind) ∈ keyboardFields → ∀ value, entries.lookup name = some value →
      kind.admits value = true := by
  constructor
  · rintro ⟨keyboard, hkeyboard⟩ name kind hfield value hvalue
    refine admits_keyboardEntries keyboard name kind hfield value ?_
    rw [keyboardOf_eq_some_iff.mp hkeyboard name kind hfield, hvalue, Option.some_or]
  · intro h
    have hkind := h "release_handlers_on_close" .flag (by simp [keyboardFields])
    obtain ⟨forgetful, hforgetful⟩ := exists_setting exists_boolean hkind false
    exact ⟨⟨forgetful⟩, Option.bind_eq_some_iff.mpr ⟨forgetful, hforgetful, rfl⟩⟩

theorem exists_viewerOf_iff : (∃ viewer, viewerOf entries = some viewer) ↔
    ∀ name kind, (name, kind) ∈ viewerFields → ∀ value, entries.lookup name = some value →
      kind.admits value = true := by
  constructor
  · rintro ⟨viewer, hviewer⟩ name kind hfield value hvalue
    refine admits_viewerEntries viewer name kind hfield value ?_
    rw [viewerOf_eq_some_iff.mp hviewer name kind hfield, hvalue, Option.some_or]
  · intro h
    obtain ⟨khost, kport, kpath, ktoken, kencrypt, kshared, kviewOnly, kscale, kresize, krepeaterId, kpassword,
      klogging⟩ := forall_viewerFields.mp h
    obtain ⟨host, hhost⟩ := exists_setting exists_string khost ""
    obtain ⟨port, hport⟩ := exists_setting exists_port kport 5901
    obtain ⟨path, hpath⟩ := exists_setting exists_string kpath "websockify"
    obtain ⟨token, htoken⟩ := exists_setting (exists_optional exists_string) ktoken none
    obtain ⟨encrypt, hencrypt⟩ := exists_setting (exists_optional exists_boolean) kencrypt none
    obtain ⟨shared, hshared⟩ := exists_setting exists_boolean kshared true
    obtain ⟨viewOnly, hviewOnly⟩ := exists_setting exists_boolean kviewOnly false
    obtain ⟨scale, hscale⟩ := exists_setting exists_boolean kscale true
    obtain ⟨resize, hresize⟩ := exists_setting exists_boolean kresize false
    obtain ⟨repeaterId, hrepeaterId⟩ := exists_setting exists_string krepeaterId ""
    obtain ⟨password, hpassword⟩ := exists_setting exists_string kpassword ""
    obtain ⟨logging, hlogging⟩ := exists_setting exists_string klogging "warn"
    exact ⟨⟨host, port, path, token, encrypt, shared, viewOnly, scale, resize, repeaterId, password, logging⟩,
      viewerOf_eq_iff_settings.mpr ⟨hhost, hport, hpath, htoken, hencrypt, hshared, hviewOnly, hscale, hresize,
        hrepeaterId, hpassword, hlogging⟩⟩

end Group

/-! ### Documents -/

/-- The table that describes the settings. -/
def entries (settings : Settings) : Entries :=
  settings.groups.map Document.groupEntry

/-- Of a document, that the groups of settings are tables in it, if they are there. -/
def Grouped (entries : Entries) : Prop :=
  ∀ group ∈ ["keyboard", "viewer"], ∀ value, entries.lookup group = some value →
    ∃ form inner, value = .table form inner

/-- What a document says of a group; no group is like an empty one. -/
def group (entries : Entries) (name : String) : Entries :=
  match entries.lookup name with
  | some (.table _ inner) => inner
  | _ => []

section Document

variable {entries : Entries}

theorem at?_group (h : Grouped entries) {group : String} (hgroup : group ∈ ["keyboard", "viewer"]) (name : String) :
    entries.at? [group, name] = (Settings.group entries group).lookup name := by
  rw [Entries.at?, Settings.group]
  cases hlookup : entries.lookup group with
  | none => rfl
  | some value =>
      obtain ⟨form, inner, rfl⟩ := h group hgroup value hlookup
      show (inner.lookup name).bind some = inner.lookup name
      exact Option.bind_fun_some _

theorem setting_group (h : Grouped entries) {name : String} (hname : name ∈ ["keyboard", "viewer"]) {α : Type}
    (names : List String) (read : Entries → Option α) {default : α} (hdefault : read [] = some default) :
    setting entries name (fun v => (group? names v).bind read) default = read (group entries name) := by
  rw [setting, group]
  cases hlookup : entries.lookup name with
  | none => exact hdefault.symm
  | some value =>
      obtain ⟨form, inner, rfl⟩ := h name hname value hlookup
      rfl

theorem ofEntries_eq_some_iff (h : Grouped entries) {settings : Settings} : ofEntries entries = some settings ↔
    keyboardOf (group entries "keyboard") = some settings.keyboard ∧
      viewerOf (group entries "viewer") = some settings.viewer := by
  have hkeyboard : setting entries "keyboard" (fun v => (group? keyboardNames v).bind keyboardOf) {} = _ :=
    setting_group h (by decide) keyboardNames keyboardOf rfl
  have hviewer : setting entries "viewer" (fun v => (group? viewerNames v).bind viewerOf) {} = _ :=
    setting_group h (by decide) viewerNames viewerOf rfl
  rw [ofEntries, hkeyboard, hviewer]
  simp only [Option.bind_eq_bind, Option.bind_eq_some_iff]
  constructor
  · rintro ⟨keyboard, hkeyboard, viewer, hviewer, heq⟩
    obtain rfl := Option.some.inj heq
    exact ⟨hkeyboard, hviewer⟩
  · rintro ⟨hkeyboard, hviewer⟩
    exact ⟨_, hkeyboard, _, hviewer, rfl⟩

theorem grouped_of_tables {keyboardForm viewerForm : TableForm} {keyboard viewer : Entries}
    (hkeyboard : entries.lookup "keyboard" = some (.table keyboardForm keyboard))
    (hviewer : entries.lookup "viewer" = some (.table viewerForm viewer)) : Grouped entries := by
  intro group hgroup value hvalue
  simp only [List.mem_cons, List.not_mem_nil, or_false] at hgroup
  rcases hgroup with rfl | rfl
  · exact ⟨keyboardForm, keyboard, Option.some.inj (hvalue.symm.trans hkeyboard)⟩
  · exact ⟨viewerForm, viewer, Option.some.inj (hvalue.symm.trans hviewer)⟩

theorem grouped_entries (settings : Settings) : Grouped settings.entries :=
  grouped_of_tables rfl rfl

theorem unrepeated_pair (h : Grouped entries) {group : String} (hgroup : group ∈ ["keyboard", "viewer"])
    (name : String) : Unrepeated entries.at? [group, name] := by
  intro front key back elements heq htables
  rcases front with _ | ⟨first, _ | ⟨second, front⟩⟩
  · cases htables
  · obtain ⟨rfl, -⟩ := List.cons.inj heq
    obtain ⟨value, hvalue, hat⟩ := Option.bind_eq_some_iff.mp htables
    obtain ⟨form, inner, rfl⟩ := h group hgroup value hvalue
    cases hat
  · simp at heq

theorem forall_fields {P : List String → Kind → Prop} : (∀ path kind, (path, kind) ∈ fields → P path kind) ↔
    (∀ name kind, (name, kind) ∈ keyboardFields → P ["keyboard", name] kind) ∧
      ∀ name kind, (name, kind) ∈ viewerFields → P ["viewer", name] kind := by
  constructor
  · intro h
    refine ⟨fun name kind hmem => h _ kind ?_, fun name kind hmem => h _ kind ?_⟩
    · exact List.mem_append_left _ (List.mem_map.mpr ⟨(name, kind), hmem, rfl⟩)
    · exact List.mem_append_right _ (List.mem_map.mpr ⟨(name, kind), hmem, rfl⟩)
  · rintro ⟨hkeyboard, hviewer⟩ path kind hmem
    rcases List.mem_append.mp hmem with hfield | hfield
    · obtain ⟨⟨name, kind⟩, hname, heq⟩ := List.mem_map.mp hfield
      obtain ⟨rfl, rfl⟩ := Prod.mk.inj heq
      exact hkeyboard name kind hname
    · obtain ⟨⟨name, kind⟩, hname, heq⟩ := List.mem_map.mp hfield
      obtain ⟨rfl, rfl⟩ := Prod.mk.inj heq
      exact hviewer name kind hname

theorem unrepeated_fields (h : Grouped entries) :
    ∀ path kind, (path, kind) ∈ fields → Unrepeated entries.at? path :=
  forall_fields.mpr ⟨fun name _ _ => unrepeated_pair h (by decide) name,
    fun name _ _ => unrepeated_pair h (by decide) name⟩

/-- The settings of a document are those that it gives, and the defaults of the others. -/
theorem ofEntries_eq_some_iff_merged (h : Grouped entries) {settings : Settings} :
    ofEntries entries = some settings ↔ ∀ path kind, (path, kind) ∈ fields →
      settings.entries.at? path = (entries.at? path).or (({} : Settings).entries.at? path) := by
  have hgiven := grouped_entries settings
  have hdefault := grouped_entries {}
  rw [ofEntries_eq_some_iff h, keyboardOf_eq_some_iff, viewerOf_eq_some_iff, forall_fields]
  simp only [at?_group h, at?_group hgiven, at?_group hdefault, List.mem_cons, List.not_mem_nil, or_false,
    true_or, or_true]
  rfl

/-- The settings of a document can be read if every one that it gives has its kind. -/
theorem exists_ofEntries_iff (h : Grouped entries) : (∃ settings, ofEntries entries = some settings) ↔
    ∀ path kind, (path, kind) ∈ fields → ∀ value, entries.at? path = some value → kind.admits value = true := by
  have hexists : (∃ settings, ofEntries entries = some settings) ↔
      (∃ keyboard, keyboardOf (group entries "keyboard") = some keyboard) ∧
        ∃ viewer, viewerOf (group entries "viewer") = some viewer := by
    simp only [ofEntries_eq_some_iff h]
    exact ⟨fun ⟨settings, hkeyboard, hviewer⟩ => ⟨⟨_, hkeyboard⟩, _, hviewer⟩,
      fun ⟨⟨keyboard, hkeyboard⟩, viewer, hviewer⟩ => ⟨{ keyboard, viewer }, hkeyboard, hviewer⟩⟩
  rw [hexists, exists_keyboardOf_iff, exists_viewerOf_iff, forall_fields]
  simp only [at?_group h, List.mem_cons, List.not_mem_nil, or_false, true_or, or_true]

theorem ofEntries_congr {others : Entries} (h : Grouped entries) (hothers : Grouped others)
    (hfields : ∀ path kind, (path, kind) ∈ fields → others.at? path = entries.at? path) :
    ofEntries others = ofEntries entries := by
  apply Option.ext
  intro settings
  rw [ofEntries_eq_some_iff_merged hothers, ofEntries_eq_some_iff_merged h]
  refine forall₃_congr fun path kind hmem => ?_
  rw [hfields path kind hmem]

end Document

/-- A text that is no document gives no settings. A document in which the groups of settings are tables gives
settings if and only if every setting in it has its kind; each is then what the document gives for it, and its
default if it gives nothing. What else stands in the document makes no difference, and neither does the spelling:
the document gives a setting a value just when one of its lines says so. -/
theorem read?_merges (text : String) :
    (Document.read? text = none → read? text = none) ∧
    ∀ given, Document.read? text = some given → Grouped given →
      ((∃ settings, read? text = some settings) ↔
        ∀ path kind, (path, kind) ∈ fields → ∀ value, given.at? path = some value → kind.admits value = true) ∧
      (∀ settings, read? text = some settings ↔
        ∀ path kind, (path, kind) ∈ fields →
          settings.entries.at? path = (given.at? path).or (({} : Settings).entries.at? path)) ∧
      (∀ other others, Document.read? other = some others → Grouped others →
        (∀ path kind, (path, kind) ∈ fields → others.at? path = given.at? path) → read? other = read? text) ∧
      ∀ path kind, (path, kind) ∈ fields → ∀ value, value.isClosed = true →
        (given.at? path = some value ↔ ∃ lines, Document.lines? text = some lines ∧
          ∃ named inner rest, (named, inner) ∈ Document.statements lines ∧ path = named ++ rest ∧
            inner.at? rest = some value) := by
  constructor
  · intro hnone
    rw [read?, hnone, Option.bind_none]
  · intro given hgiven hgrouped
    have hread : read? text = ofEntries given := by rw [read?, hgiven, Option.bind_some]
    rw [hread]
    refine ⟨exists_ofEntries_iff hgrouped, fun settings => ofEntries_eq_some_iff_merged hgrouped, ?_, ?_⟩
    · intro other others hothers hother hfields
      rw [read?, hothers, Option.bind_some, ofEntries_congr hgrouped hother hfields]
    · intro path kind hfield value hclosed
      rw [Document.read?_eq] at hgiven
      obtain ⟨lines, hlines, hofLines⟩ := Option.bind_eq_some_iff.mp hgiven
      rw [Document.ofLines_at? (Document.giveClosed_lines hlines) hofLines
        (unrepeated_fields hgrouped path kind hfield) hclosed]
      simp [hlines]

/-- A document with dotted keys, a table in braces that is no setting, and a header. -/
def headedText : String :=
  "keyboard.release_handlers_on_close = true\nextra = \x7b port = 1 \x7d\n[viewer]\nport = 0x50\nhost = 'h'\nx.y = 1"

def headedEntries : Entries :=
  [("keyboard", .table .dotted [("release_handlers_on_close", .boolean true)]),
    ("extra", .table .braced [("port", .integer 1)]),
    ("viewer", .table .headed
      [("port", .integer 80), ("host", .string "h"), ("x", .table .dotted [("y", .integer 1)])])]

def headedSettings : Settings :=
  { keyboard := { forgetful := true }, viewer := { host := "h", port := 80 } }

/-- The same settings in other spellings. -/
def bracedText : String :=
  "viewer = \x7b port = 8_0, host = \"h\" \x7d\n[keyboard]\nrelease_handlers_on_close = true"

def bracedEntries : Entries :=
  [("viewer", .table .braced [("port", .integer 80), ("host", .string "h")]),
    ("keyboard", .table .headed [("release_handlers_on_close", .boolean true)])]

/-- A document whose port is no number. -/
def quotedPortText : String :=
  "[keyboard]\n[viewer]\nport = '80'"

def quotedPortEntries : Entries :=
  [("keyboard", .table .headed []), ("viewer", .table .headed [("port", .string "80")])]

/-- Documents in two spellings give the same settings, whatever else stands in one of them; a quoted port gives none,
and neither does a text that is no document. -/
theorem read?_merges_of_spellings :
    (Document.read? headedText = some headedEntries ∧ Grouped headedEntries) ∧
    (Document.read? bracedText = some bracedEntries ∧ Grouped bracedEntries) ∧
    (∀ path kind, (path, kind) ∈ fields → bracedEntries.at? path = headedEntries.at? path) ∧
    (Document.read? quotedPortText = some quotedPortEntries ∧ Grouped quotedPortEntries) ∧
    Document.read? "port" = none ∧
    read? headedText = some headedSettings ∧ read? bracedText = read? headedText ∧
    (¬∃ settings, read? quotedPortText = some settings) ∧ read? "port" = none ∧
    ∃ lines, Document.lines? headedText = some lines ∧
      ∃ named inner rest, (named, inner) ∈ Document.statements lines ∧ ["viewer", "port"] = named ++ rest ∧
        inner.at? rest = some (.integer 80) := by
  have hheaded : Document.read? headedText = some headedEntries := by rfl
  have hbraced : Document.read? bracedText = some bracedEntries := by rfl
  have hquoted : Document.read? quotedPortText = some quotedPortEntries := by rfl
  have hnone : Document.read? "port" = none := by rfl
  have hsame : fields.map (fun field => bracedEntries.at? field.1) =
      fields.map fun field => headedEntries.at? field.1 := rfl
  have hfields : ∀ path kind, (path, kind) ∈ fields → bracedEntries.at? path = headedEntries.at? path :=
    fun path kind hfield => List.map_inj_left.mp hsame (path, kind) hfield
  have hgrouped : Grouped headedEntries ∧ Grouped bracedEntries ∧ Grouped quotedPortEntries :=
    ⟨grouped_of_tables rfl rfl, grouped_of_tables rfl rfl, grouped_of_tables rfl rfl⟩
  obtain ⟨-, hmerged, hother, hsaid⟩ := (read?_merges headedText).2 headedEntries hheaded hgrouped.1
  obtain ⟨hkinds, -⟩ := (read?_merges quotedPortText).2 quotedPortEntries hquoted hgrouped.2.2
  refine ⟨⟨hheaded, hgrouped.1⟩, ⟨hbraced, hgrouped.2.1⟩, hfields, ⟨hquoted, hgrouped.2.2⟩, hnone, ?_, ?_, ?_, ?_, ?_⟩
  · have hall : fields.map (fun field => headedSettings.entries.at? field.1) =
        fields.map fun field => (headedEntries.at? field.1).or (({} : Settings).entries.at? field.1) := rfl
    exact (hmerged headedSettings).mpr fun path kind hfield => List.map_inj_left.mp hall (path, kind) hfield
  · exact hother bracedText bracedEntries hbraced hgrouped.2.1 hfields
  · intro hread
    have hadmits := hkinds.mp hread ["viewer", "port"] .port (by decide) (.string "80") rfl
    exact Bool.false_ne_true hadmits
  · exact (read?_merges "port").1 hnone
  · exact (hsaid ["viewer", "port"] .port (by decide) (.integer 80) rfl).mp rfl

end ScreenKeyboard.Settings
