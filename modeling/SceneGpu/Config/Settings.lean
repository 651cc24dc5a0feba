import SceneGpu.Config.Toml.Document
import SceneGpu.Path
import SceneGpu.Report.Journal
import SceneGpu.Text.Basic
/-!
The settings of the program, their defaults, and how they are read from a document. A section is a table,
or an array whose items are the section's fields in order. Unknown keys are passed over and missing fields
keep their defaults.
-/
namespace SceneGpu

structure DeviceSettings where
  disableWorkarounds : Bool := false
  validation : Bool := false
  validationLayers : List String := ["VK_LAYER_KHRONOS_validation"]
  /-- Nothing is shown on a screen. -/
  headless : Bool := false
  /-- A part of the wanted device's name; empty wants none. -/
  preferredDevice : String := ""
  extensions : List String := []
deriving DecidableEq, Repr

structure ShaderSettings where
  defaultRoot : Path := Path.ofText "shaders"
  compiler : String := "glslc"
  crossCompiler : String := "spirv-cross"
  legacyVersion : UInt32 := 410
  watch : Bool := false
deriving DecidableEq, Repr

structure LoggingSettings where
  level : String := "info"
deriving DecidableEq, Repr

structure Settings where
  device : DeviceSettings := {}
  shaders : ShaderSettings := {}
  logging : LoggingSettings := {}
deriving DecidableEq, Repr

def DeviceSettings.enabledLayers (s : DeviceSettings) : List String :=
  if s.validation then s.validationLayers else []

open Toml

/-- The fields of a section by name; the items of an array take the names in order. -/
def sectionFields? (names : List String) : Node → Option Entries
  | .table _ es => some es
  | .array items => some (names.zip items)
  | .tables items => some (names.zip items)
  | .date => some []
  | _ => none

namespace Toml.Node

def truth? : Node → Option Bool
  | .boolean b => some b
  | _ => none

def text? : Node → Option String
  | .string s => some s
  | _ => none

def texts? : Node → Option (List String)
  | .array items => items.mapM text?
  | .tables items => items.mapM text?
  | _ => none

def path? (n : Node) : Option Path := n.text?.map Path.ofText

def word? : Node → Option UInt32
  | .integer n => if 0 ≤ n && n < UInt32.size then some (UInt32.ofNat n.toNat) else none
  | _ => none

end Toml.Node

def field {α : Type} (es : Entries) (name : String) (read : Node → Option α) (standard : α) :
    Option α :=
  match Entries.get? es name with
  | none => some standard
  | some n => read n

namespace DeviceSettings

def fieldNames : List String :=
  ["disable_workarounds", "validation", "validation_layers", "headless", "preferred_device",
    "extensions"]

def ofNode? (n : Node) : Option DeviceSettings := do
  let es ← sectionFields? fieldNames n
  let standard : DeviceSettings := {}
  return {
    disableWorkarounds := ← field es "disable_workarounds" Node.truth? standard.disableWorkarounds
    validation := ← field es "validation" Node.truth? standard.validation
    validationLayers := ← field es "validation_layers" Node.texts? standard.validationLayers
    headless := ← field es "headless" Node.truth? standard.headless
    preferredDevice := ← field es "preferred_device" Node.text? standard.preferredDevice
    extensions := ← field es "extensions" Node.texts? standard.extensions }

end DeviceSettings

namespace ShaderSettings

def fieldNames : List String :=
  ["default_root", "compiler", "cross_compiler", "legacy_glsl_version", "watch"]

def ofNode? (n : Node) : Option ShaderSettings := do
  let es ← sectionFields? fieldNames n
  let standard : ShaderSettings := {}
  return {
    defaultRoot := ← field es "default_root" Node.path? standard.defaultRoot
    compiler := ← field es "compiler" Node.text? standard.compiler
    crossCompiler := ← field es "cross_compiler" Node.text? standard.crossCompiler
    legacyVersion := ← field es "legacy_glsl_version" Node.word? standard.legacyVersion
    watch := ← field es "watch" Node.truth? standard.watch }

end ShaderSettings

def LoggingSettings.ofNode? (n : Node) : Option LoggingSettings := do
  let es ← sectionFields? ["level"] n
  return { level := ← field es "level" Node.text? ({} : LoggingSettings).level }

namespace Settings

def ofNode? (n : Node) : Option Settings := do
  let es ← sectionFields? ["device", "shaders", "logging"] n
  return {
    device := ← field es "device" DeviceSettings.ofNode? {}
    shaders := ← field es "shaders" ShaderSettings.ofNode? {}
    logging := ← field es "logging" LoggingSettings.ofNode? {} }

def ofText (text : String) : Except Failure Settings :=
  match (Toml.document? text).bind ofNode? with
  | some s => .ok s
  | none => .error (Failure.ofCause (.config "invalid configuration"))

end Settings
end SceneGpu
