import SemanticLayer.Settings
import SemanticLayer.Toml.Document
namespace SemanticLayer.Settings

/-! Settings out of a TOML text. -/

open Toml

/-- The known fields of a section. It may be an array with their values in order, and a
date has none of them. -/
def fieldsOf (known : List String) : Value → Except Problem Entries
  | .table _ entries => .ok entries
  | .array _ items => .ok (known.zip items)
  | .dateTime _ => .ok []
  | _ => .error (.shape "a table")

def field (entries : Entries) (name : String) (default : α)
    (decode : Value → Except Problem α) : Except Problem α :=
  match entries.value? name with
  | some value => decode value
  | none => .ok default

def asText : Value → Except Problem String
  | .text value => .ok value
  | _ => .error (.shape "a string")

def optional (decode : Value → Except Problem α) (value : Value) : Except Problem (Option α) :=
  (decode value).map some

def asTexts : Value → Except Problem (List String)
  | .array _ items => items.mapM asText
  | _ => .error (.shape "a sequence")

/-- A natural number of at most 64 bits. -/
def asHops : Value → Except Problem Nat
  | .integer value =>
      if 0 ≤ value && value < (Nat.pow 2 64 : Int) then .ok value.toNat
      else .error (.shape "a natural number")
  | _ => .error (.shape "a natural number")

def modeOfTag (tag : String) : Except Problem Mode :=
  match [Mode.strict, Mode.lenient].find? fun mode => mode.tag == tag with
  | some mode => .ok mode
  | none => .error (.shape "strict or lenient")

/-- The tag of a mode, or a table with the tag as its only key and nothing under it. -/
def asMode : Value → Except Problem Mode
  | .text tag => modeOfTag tag
  | .table _ [(tag, .table _ [])] => modeOfTag tag
  | .table _ [(tag, .array _ [])] => modeOfTag tag
  | _ => .error (.shape "a string or a table")

def withGeneration (settings : Settings) (value : Value) : Except Problem Settings := do
  let entries ←
    fieldsOf
      ["mode", "max_join_hops", "view_prefix", "explore_prefix", "schema", "explores"] value
  return { settings with
    mode := ← field entries "mode" settings.mode asMode
    maxJoinHops := ← field entries "max_join_hops" none (optional asHops)
    viewPrefix := ← field entries "view_prefix" settings.viewPrefix asText
    explorePrefix := ← field entries "explore_prefix" settings.explorePrefix asText
    schema := ← field entries "schema" none (optional asText)
    explores := ← field entries "explores" none (optional asTexts) }

def withOutput (settings : Settings) (value : Value) : Except Problem Settings := do
  let entries ← fieldsOf ["directory"] value
  return { settings with directory := ← field entries "directory" settings.directory asText }

def decode (entries : Entries) : Except Problem Settings := do
  let settings : Settings := {}
  let settings ← field entries "generation" settings settings.withGeneration
  field entries "output" settings settings.withOutput

def ofToml (text : String) : Except SettingsError Settings := do
  let settings ← ((table text).bind decode).mapError .unparsable
  settings.validate
  return settings

end SemanticLayer.Settings
