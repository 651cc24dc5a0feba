import SceneGpu.Config.Settings
import SceneGpu.Report.Directive
/-!
Loading the settings file, the environment's say in it, the log level it asks for, and the text of
all settings.
-/
namespace SceneGpu

def disableWorkaroundsVariable : String := "VKSCENE_DISABLE_DEVICE_WORKAROUNDS"

def isYes (value : String) : Bool :=
  Text.asciiLower (Text.trim value) ∈ ["1", "true", "yes", "on"]

def quoteList (texts : List String) : String :=
  "[" ++ ", ".intercalate (texts.map Text.quote) ++ "]"

def showRecord (name : String) (fields : List (String × String)) : String :=
  name ++ " \x7b " ++ ", ".intercalate (fields.map fun f => f.1 ++ ": " ++ f.2) ++ " \x7d"

namespace Settings

/-- The variable, when set, decides on workarounds. -/
def withEnvironment (s : Settings) (setting : Option String) : Settings :=
  match setting with
  | none => s
  | some value => { s with device := { s.device with disableWorkarounds := isYes value } }

def logLevel (s : Settings) : LogFilter × List Record :=
  match LogFilter.ofText? s.logging.level with
  | some f => (f, [])
  | none => (some .info, [.remark .warn .config
      ("Unknown log level '" ++ s.logging.level ++ "', defaulting to info")])

def text (s : Settings) : String :=
  showRecord "Config" [
    ("device", showRecord "DeviceConfig" [
      ("disable_workarounds", toString s.device.disableWorkarounds),
      ("validation", toString s.device.validation),
      ("validation_layers", quoteList s.device.validationLayers),
      ("headless", toString s.device.headless),
      ("preferred_device", Text.quote s.device.preferredDevice),
      ("extensions", quoteList s.device.extensions)]),
    ("shaders", showRecord "ShaderConfig" [
      ("default_root", s.shaders.defaultRoot.quoted),
      ("compiler", Text.quote s.shaders.compiler),
      ("cross_compiler", Text.quote s.shaders.crossCompiler),
      ("legacy_glsl_version", toString s.shaders.legacyVersion),
      ("watch", toString s.shaders.watch)]),
    ("logging", showRecord "LoggingConfig" [("level", Text.quote s.logging.level)])]

def contextText (s : Settings) : String :=
  "BackendContext \x7b config: " ++ s.text ++ ", .. \x7d"

def loadFrom (t : Files.Tree) (setting : Option String) (path : Path) : Logged Settings :=
  if !t.contains path then
    ⟨[.remark .info .config ("Config file not found at " ++ path.quoted ++ ", using defaults")],
      .ok (({} : Settings).withEnvironment setting)⟩
  else
    match t.readText path with
    | .error r => Logged.fail ⟨["Failed to read config file: " ++ path.quoted], .files r⟩
    | .ok content =>
      match within ("Failed to parse config file: " ++ path.quoted) (ofText content) with
      | .error f => Logged.fail f
      | .ok s => ⟨[.remark .info .config ("Loaded configuration from " ++ path.quoted),
          .remark .debug .config ("Config: " ++ s.text)], .ok (s.withEnvironment setting)⟩

def load (t : Files.Tree) (setting : Option String) (path : Path) : Settings × List Record :=
  let loaded := loadFrom t setting path
  match loaded.result with
  | .ok s => (s, loaded.records)
  | .error f => (({} : Settings).withEnvironment setting, loaded.records ++
      [.remark .warn .config ("Failed to load " ++ path.quoted ++ ": " ++ f.message ++
        ". Using defaults.")])

end Settings
end SceneGpu
