import FieldChecks.Config.Basic
import FieldChecks.Json.Record

/-!
# Configurations in JSON

A configuration is read from an object or from a list; what is not given
is as in the default configuration. It is written as an object, its keys
in a fixed order and without blanks.
-/

namespace FieldChecks.Config

/-- How a configuration is read. -/
def shape : Json.RecordShape Config Config where
  expected := "struct ValidatorConfig"
  fields := [
    ⟨"tag_name", fun config => return { config with tagName := ← Json.Reader.string }⟩,
    ⟨"check_separator",
      fun config => return { config with checkSeparator := ← Json.Reader.string }⟩,
    ⟨"argument_separator",
      fun config => return { config with argumentSeparator := ← Json.Reader.string }⟩,
    ⟨"dont_skip_zero",
      fun config => return { config with exempt := ← Json.Reader.list Json.Reader.string }⟩,
    ⟨"error_on_private", fun config => return { config with errorOnPrivate := ← Json.Reader.bool }⟩]
  start := {}
  complete := .ok
  tooShort := fun _ => none

/-- The configuration that a JSON text gives, if it can be used. -/
def fromJson (text : String) : Except ConfigError Config :=
  match Json.decode shape.read text with
  | .error fault => .error (.json fault)
  | .ok config => config.validate.map fun _ => config

/-- A configuration as a JSON text. -/
def toJson (config : Config) : String :=
  "\x7b\"tag_name\":" ++ Json.writeString config.tagName ++
    ",\"check_separator\":" ++ Json.writeString config.checkSeparator ++
    ",\"argument_separator\":" ++ Json.writeString config.argumentSeparator ++
    ",\"dont_skip_zero\":[" ++ ",".intercalate (config.exempt.map Json.writeString) ++
    "],\"error_on_private\":" ++ (if config.errorOnPrivate then "true" else "false") ++ "\x7d"

end FieldChecks.Config
