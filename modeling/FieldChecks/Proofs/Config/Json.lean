import FieldChecks.Config.Json
import FieldChecks.Proofs.Json.Record
import Mathlib.Data.List.Nodup

/-!
# Configurations in JSON — a text says what differs from the default

A text gives some settings, as an object under their keys or as a list in
the order of the keys. What comes out is the default configuration with
these settings made, or what is wrong with that configuration
(`fromJson_eq`). Neither the order of the keys matters, nor blanks,
nor which characters are escaped, nor what stands under other keys. What
is written for a configuration gives all of its settings, so a
configuration comes back if it can be used.
-/

namespace FieldChecks.Config

open Json

/-! ## Settings -/

/-- One thing that a configuration says. -/
inductive Setting where
  | tagName (name : String)
  | checkSeparator (separator : String)
  | argumentSeparator (separator : String)
  | exempt (checks : List String)
  | errorOnPrivate (flag : Bool)
  deriving Repr, DecidableEq

/-- The keys of settings, in the order of a list. -/
def keys : List String :=
  ["tag_name", "check_separator", "argument_separator", "dont_skip_zero", "error_on_private"]

namespace Setting

/-- The key of a setting. -/
def key : Setting → String
  | .tagName _ => "tag_name"
  | .checkSeparator _ => "check_separator"
  | .argumentSeparator _ => "argument_separator"
  | .exempt _ => "dont_skip_zero"
  | .errorOnPrivate _ => "error_on_private"

/-- **What is written for a setting.** -/
inductive IsWritten : List Char → Setting → Prop
  | tagName {cs : List Char} {name : String} (h : IsString cs name) : IsWritten cs (.tagName name)
  | checkSeparator {cs : List Char} {separator : String} (h : IsString cs separator) :
      IsWritten cs (.checkSeparator separator)
  | argumentSeparator {cs : List Char} {separator : String} (h : IsString cs separator) :
      IsWritten cs (.argumentSeparator separator)
  | exempt {cs : List Char} {checks : List String} (h : Lists IsString cs checks) :
      IsWritten cs (.exempt checks)
  | errorOnPrivate (flag : Bool) : IsWritten (boolChars flag) (.errorOnPrivate flag)

/-- The configuration with a setting made. -/
def make (config : Config) : Setting → Config
  | .tagName name => { config with tagName := name }
  | .checkSeparator separator => { config with checkSeparator := separator }
  | .argumentSeparator separator => { config with argumentSeparator := separator }
  | .exempt checks => { config with exempt := checks }
  | .errorOnPrivate flag => { config with errorOnPrivate := flag }

end Setting

/-- **The default configuration with some settings made.** -/
def overridden (settings : List Setting) : Config :=
  settings.foldl Setting.make {}

/-- The members of an object give settings, in their order; what stands under other keys does
not matter. -/
inductive Gives : List (String × List Char) → List Setting → Prop
  | nil : Gives [] []
  | setting {setting : Setting} {cs : List Char} {entries : List (String × List Char)}
      {settings : List Setting} (hwritten : setting.IsWritten cs) (h : Gives entries settings) :
      Gives ((setting.key, cs) :: entries) (setting :: settings)
  | other {key : String} {cs : List Char} {entries : List (String × List Char)}
      {settings : List Setting} (hkey : key ∉ keys) (hvalue : IsValue cs)
      (h : Gives entries settings) : Gives ((key, cs) :: entries) settings

/-- **The ways to say settings**: an object with the settings under their keys, in any order, or
a list of the first ones. -/
inductive Says (settings : List Setting) : List Char → Prop
  | object {cs : List Char} {entries : List (String × List Char)} {given : List Setting}
      (h : IsObject cs entries) (hgiven : Gives entries given) (hperm : given.Perm settings) :
      Says settings cs
  | list {cs : List Char} (h : Lists Setting.IsWritten cs settings)
      (hfirst : settings.map Setting.key <+: keys) : Says settings cs

/-- What is wrong with a configuration, or the configuration itself. -/
def usable (config : Config) : Except ConfigError Config :=
  config.validate.map fun _ => config

/-! ## Reading -/

variable {config : Config} {cs : List Char} {setting : Setting} {settings : List Setting}

theorem Setting.IsWritten.isEntry (h : setting.IsWritten cs) : IsEntry cs := by
  cases h with
  | tagName h | checkSeparator h | argumentSeparator h => exact h.isEntry
  | exempt h =>
    cases h with
    | items hbracket _ => exact hbracket.isEntry
  | errorOnPrivate flag => exact isEntry_boolChars flag

/-- Every setting has a field. -/
theorem Setting.exists_field (setting : Setting) :
    ∃ field, shape.fields.find? (·.name == setting.key) = some field := by
  cases setting <;> exact ⟨_, rfl⟩

/-- Every field is the one of its name. -/
theorem find?_name {field : RecordField Config} (h : field ∈ shape.fields) :
    shape.fields.find? (·.name == field.name) = some field := by
  simp only [shape, List.mem_cons, List.not_mem_nil, or_false] at h
  rcases h with rfl | rfl | rfl | rfl | rfl <;> rfl

/-- The field of a setting makes the setting. -/
theorem Setting.IsWritten.takes (h : setting.IsWritten cs) {field : RecordField Config}
    (hfield : shape.fields.find? (·.name == setting.key) = some field) :
    Reader.Takes (field.read config) cs (setting.make config) := by
  cases h with
  | tagName h | checkSeparator h | argumentSeparator h =>
    obtain rfl := Option.some.inj hfield
    exact (Reader.takes_string h).map _
  | exempt h =>
    obtain rfl := Option.some.inj hfield
    exact (Reader.takes_list h fun h => ⟨h.isEntry, Reader.takes_string h⟩).map _
  | errorOnPrivate flag =>
    obtain rfl := Option.some.inj hfield
    exact (Reader.takes_bool flag).map _

/-- The members of an object make their settings one by one. -/
theorem Gives.fills {entries : List (String × List Char)} {seen : List String}
    (h : Gives entries settings) (hdistinct : (settings.map Setting.key).Nodup)
    (hseen : ∀ setting ∈ settings, setting.key ∉ seen) :
    shape.Fills seen config entries (settings.foldl Setting.make config) := by
  induction h generalizing config seen with
  | nil => exact .nil
  | @setting setting _ _ settings hwritten _ ih =>
    obtain ⟨field, hfield⟩ := setting.exists_field
    rw [List.map_cons, List.nodup_cons] at hdistinct
    -- A later key is neither this one nor one of those seen before.
    refine .known hfield (hseen setting List.mem_cons_self)
      (hwritten.takes hfield) (ih hdistinct.2 ?_)
    intro later hlater hmem
    rcases List.mem_cons.1 hmem with hsame | hmem
    · exact hdistinct.1 (hsame ▸ List.mem_map_of_mem hlater)
    · exact hseen later (List.mem_cons_of_mem _ hlater) hmem
  | @other key _ _ _ hkey hvalue _ ih =>
    have hfield : shape.fields.find? (·.name == key) = none := by
      rw [List.find?_eq_none]
      intro field hfield hname
      exact hkey (beq_iff_eq.1 hname ▸ List.mem_map_of_mem hfield)
    exact .unknown hfield hvalue (ih hdistinct hseen)

/-- The entries of a list make the settings of the first fields. -/
theorem fillsInOrder_of_forall₂ {fields : List (RecordField Config)} {items : List (List Char)}
    (h : List.Forall₂ Setting.IsWritten items settings) (hfields : fields ⊆ shape.fields)
    (hfirst : settings.map Setting.key <+: fields.map (·.name)) :
    RecordShape.FillsInOrder fields config items (settings.foldl Setting.make config) := by
  induction h generalizing config fields with
  | nil => exact .nil
  | cons hwritten _ ih =>
    cases fields with
    | nil => simp at hfirst
    | cons field fields =>
      rw [List.map_cons, List.map_cons, List.cons_prefix_cons] at hfirst
      obtain ⟨hfield, hfields⟩ := List.cons_subset.1 hfields
      have hfind := find?_name hfield
      rw [← hfirst.1] at hfind
      exact .cons hwritten.isEntry (hwritten.takes hfind) (ih hfields hfirst.2)

/-- Settings under different keys can be made in any order. -/
theorem overridden_perm {others : List Setting} (h : settings.Perm others)
    (hdistinct : (settings.map Setting.key).Nodup) : overridden settings = overridden others := by
  refine h.foldl_eq' (fun a ha b hb config => ?_) _
  -- Two settings with one key are the same setting; two others change different fields.
  by_cases hkey : a.key = b.key
  · rw [List.inj_on_of_nodup_map hdistinct ha hb hkey]
  · cases a <;> cases b <;> first | rfl | exact absurd rfl hkey

/-- A text that says settings with different keys is read as the configuration with them made. -/
theorem Says.takes (h : Says settings cs) (hdistinct : (settings.map Setting.key).Nodup) :
    Reader.Takes shape.read cs (overridden settings) := by
  cases h with
  | @object _ given h hgiven hperm =>
    have hgiven_distinct : (given.map Setting.key).Nodup :=
      (hperm.map Setting.key).nodup_iff.2 hdistinct
    rw [← overridden_perm hperm hgiven_distinct]
    exact RecordShape.takes_object h (hgiven.fills hgiven_distinct nofun) rfl
  | list h hfirst =>
    cases h with
    | items hbracket hitems =>
      exact RecordShape.takes_list hbracket
        (fillsInOrder_of_forall₂ hitems (List.Subset.refl _) hfirst) (fun _ => rfl) rfl

theorem fromJson_of_settings {text : String} (h : Holds (Says settings) text)
    (hdistinct : (settings.map Setting.key).Nodup) :
    fromJson text = usable (overridden settings) := by
  rw [fromJson, decode_eq h fun _ hgiven => hgiven.takes hdistinct]
  rfl

/-! ## Writing -/

/-- All that a configuration says. -/
def allSettings (config : Config) : List Setting :=
  [.tagName config.tagName, .checkSeparator config.checkSeparator,
    .argumentSeparator config.argumentSeparator, .exempt config.exempt,
    .errorOnPrivate config.errorOnPrivate]

theorem overridden_allSettings (config : Config) : overridden config.allSettings = config :=
  rfl

/-- A setting as it is written without blanks. -/
def Setting.chars : Setting → List Char
  | .tagName text | .checkSeparator text | .argumentSeparator text => stringChars text
  | .exempt checks => Bracket.list.chars (checks.map stringChars)
  | .errorOnPrivate flag => boolChars flag

theorem Setting.isWritten_chars (setting : Setting) : setting.IsWritten setting.chars := by
  cases setting with
  | tagName text => exact .tagName (isString_stringChars text)
  | checkSeparator text => exact .checkSeparator (isString_stringChars text)
  | argumentSeparator text => exact .argumentSeparator (isString_stringChars text)
  | exempt checks =>
    refine .exempt (.items (Bracket.bracketed_chars _ _) ?_)
    rw [List.forall₂_map_left_iff, List.forall₂_same]
    exact fun text _ => isString_stringChars text
  | errorOnPrivate flag => exact .errorOnPrivate flag

theorem gives_chars (settings : List Setting) :
    Gives (settings.map fun setting => (setting.key, setting.chars)) settings := by
  induction settings with
  | nil => exact .nil
  | cons setting settings ih => exact .setting setting.isWritten_chars ih

/-- No character of a key is escaped. -/
theorem Setting.flatMap_escape_key (setting : Setting) :
    setting.key.toList.flatMap StringLiteral.escape = setting.key.toList := by
  have hkeys : ∀ key ∈ keys, key.toList.flatMap StringLiteral.escape = key.toList := by decide
  exact hkeys _ (by cases setting <;> simp [keys, key])

/-- A configuration is written as the object of all of its settings. -/
theorem toList_toJson (config : Config) :
    config.toJson.toList =
      objectChars (config.allSettings.map fun setting => (setting.key, setting.chars)) := by
  have hexempt : (config.exempt.map writeString).map String.toList =
      config.exempt.map stringChars := by
    simp [writeString, Function.comp_def]
  have hflag : (if config.errorOnPrivate then "true" else "false").toList =
      boolChars config.errorOnPrivate := by
    cases config.errorOnPrivate <;> rfl
  unfold toJson
  simp only [String.toList_append, String.toList_intercalate, hexempt, hflag, writeString,
    String.toList_ofList, objectChars, allSettings, Bracket.chars, Member.compact, Member.chars,
    Setting.flatMap_escape_key, List.map_cons, List.map_nil]
  simp [Setting.key, Setting.chars, Bracket.chars, Bracket.opening, Bracket.closing,
    List.intercalate]

theorem says_toJson (config : Config) : Holds (Says config.allSettings) config.toJson := by
  refine .of_toList ?_
  rw [toList_toJson]
  exact .object (isObject_objectChars _) (gives_chars _) (List.Perm.refl _)

/-- **Configurations go through JSON unchanged**, if they can be used: what is written for one is
read as it. Any text that gives settings, each under a key of its own, is read as the default
configuration with them made. -/
theorem fromJson_eq :
    (∀ config : Config, fromJson config.toJson = usable config) ∧
      ∀ (settings : List Setting) (text : String), (settings.map Setting.key).Nodup →
        Holds (Says settings) text → fromJson text = usable (overridden settings) := by
  refine ⟨fun config => ?_, fun settings text hdistinct h => fromJson_of_settings h hdistinct⟩
  rw [fromJson_of_settings (says_toJson config) (by simp [allSettings, Setting.key]),
    overridden_allSettings]

/-- The general statement, for an object with its keys out of order and one that is unknown. -/
theorem fromJson_eq_of_unknown_key :
    ([.argumentSeparator "=", .tagName "rule"].map Setting.key).Nodup ∧
      Holds (Says [.argumentSeparator "=", .tagName "rule"])
        "\x7b\"tag_name\":\"rule\",\"notes\":[1,\x7b\x7d],\"argument_separator\":\"=\"\x7d" ∧
      fromJson "\x7b\"tag_name\":\"rule\",\"notes\":[1,\x7b\x7d],\"argument_separator\":\"=\"\x7d" =
        .ok { tagName := "rule", argumentSeparator := "=" } := by
  have hnotes : IsValue (Bracket.list.chars [['1'], Bracket.object.chars []]) := by
    refine .list (Bracket.bracketed_chars _ _) fun item hitem => ?_
    rcases List.mem_pair.1 hitem with rfl | rfl
    · exact .number (@IsNumber.parts [] ['1'] [] [] (.inl rfl)
        (.digits (by decide) (by decide) nofun) .absent .absent)
    · exact @IsValue.object _ [] (Bracket.bracketed_chars _ _) nofun nofun nofun
  have hgives := Gives.setting (Setting.isWritten_chars (.tagName "rule"))
    (.other (by decide) hnotes
      (.setting (Setting.isWritten_chars (.argumentSeparator "=")) .nil) :
        Gives (("notes", _) :: _) _)
  have hgiven : Holds (Says [.argumentSeparator "=", .tagName "rule"])
      "\x7b\"tag_name\":\"rule\",\"notes\":[1,\x7b\x7d],\"argument_separator\":\"=\"\x7d" := by
    refine .of_toList (.object ?_ hgives (List.Perm.swap _ _ []))
    convert isObject_objectChars _ using 1
    decide
  have hdistinct : ([.argumentSeparator "=", .tagName "rule"].map Setting.key).Nodup := by decide
  exact ⟨hdistinct, hgiven, (fromJson_eq.2 _ _ hdistinct hgiven).trans rfl⟩

/-- A text may give too little: the separator it does not speak of is the same by default. -/
example : usable (overridden [.checkSeparator ":"]) = .error (.sameSeparators ":") := rfl

end FieldChecks.Config
