import SceneGpu.Path
/-!
The command line's grammar, and the pages that explain it. Arguments are read from left to right. The value
of an option and a path stay open until a later argument or the end settles them; only then are they
checked, so that a request for help further on may come first.
-/
namespace SceneGpu.CommandLine

inductive CommandName where
  | devices
  | reflect
  | transpile
deriving DecidableEq, Repr

namespace CommandName

def text : CommandName → String
  | .devices => "devices"
  | .reflect => "reflect"
  | .transpile => "transpile"

def all : List CommandName := [.devices, .reflect, .transpile]

def ofText? (s : String) : Option CommandName := all.find? (·.text = s)

def takesPath : CommandName → Bool
  | .devices => false
  | .reflect => true
  | .transpile => true

end CommandName

abbrev Scope := Option CommandName

inductive Parameter where
  | config
  | owner
  | path
deriving DecidableEq, Repr

inductive Switch where
  | headless
  | watch
deriving DecidableEq, Repr

inductive HelpPage where
  | program
  | command (c : CommandName)
  | help
deriving DecidableEq, Repr

inductive Stop where
  | misuse
  | version
  | help (page : HelpPage)
deriving DecidableEq, Repr

inductive Meaning where
  | parameter (p : Parameter)
  | switch (s : Switch)
  | stop (s : Stop)
deriving DecidableEq, Repr

def helpPage (scope : Scope) : HelpPage := (scope.map HelpPage.command).getD .program

def meaningOfLong? (scope : Scope) (name : String) : Option Meaning :=
  match name, scope with
  | "config", _ => some (.parameter .config)
  | "help", _ => some (.stop (.help (helpPage scope)))
  | "version", none => some (.stop .version)
  | "headless", some .devices => some (.switch .headless)
  | "watch", some .reflect => some (.switch .watch)
  | "owner", some c => if c.takesPath then some (.parameter .owner) else none
  | _, _ => none

def meaningOfLetter? (scope : Scope) (letter : Char) : Option Stop :=
  match letter, scope with
  | 'h', _ => some (.help (helpPage scope))
  | 'V', none => some .version
  | _, _ => none

inductive Argument where
  | terminator
  | long (name : String) (value : Option String)
  | letters (first : Char)
  | plain (text : String)
deriving DecidableEq, Repr

def Argument.ofText (text : String) : Argument :=
  match text.toList with
  | ['-', '-'] => .terminator
  | '-' :: '-' :: rest =>
    let name := rest.takeWhile (· ≠ '=')
    .long (String.ofList name) ((rest.drop name.length).tail?.map String.ofList)
  | '-' :: first :: _ => .letters first
  | _ => .plain text

structure Reading where
  values : List (Parameter × String)
  switches : List Switch
  /-- A parameter that is not settled yet, with its value if that has been seen. -/
  pending : Option (Parameter × Option String)
deriving DecidableEq, Repr

namespace Reading

def empty : Reading := ⟨[], [], none⟩

def value? (r : Reading) (p : Parameter) : Option String := (r.values.find? (·.1 = p)).map (·.2)

def awaits (r : Reading) : Bool := r.pending.any (·.2.isNone)

def hasPath (r : Reading) : Bool :=
  (r.value? .path).isSome || r.pending.any (·.1 = .path)

/-- A parameter needs a value that is not empty, and only one. -/
def settle (r : Reading) : Except Stop Reading :=
  match r.pending with
  | none => .ok r
  | some (p, value) =>
    match value with
    | none => .error .misuse
    | some v =>
      if v = "" || (r.value? p).isSome then .error .misuse
      else .ok { r with values := r.values ++ [(p, v)], pending := none }

def setSwitch (r : Reading) (s : Switch) : Except Stop Reading :=
  if s ∈ r.switches then .error .misuse else .ok { r with switches := r.switches ++ [s] }

def takeMeaning (r : Reading) (value : Option String) : Meaning → Except Stop Reading
  | .parameter p => do
    let r ← r.settle
    let r := { r with pending := some (p, value) }
    if value.isSome then r.settle else return r
  | .switch s => do
    if value.isSome then .error .misuse
    (← r.settle).setSwitch s
  | .stop s => do
    if value.isSome then .error .misuse
    let _ ← r.settle
    .error s

def takePath (scope : Scope) (r : Reading) (text : String) : Except Stop Reading :=
  if scope.any CommandName.takesPath && !r.hasPath then do
    let r ← r.settle
    return { r with pending := some (.path, some text) }
  else .error .misuse

def takePlain (scope : Scope) (r : Reading) (text : String) : Except Stop Reading :=
  match r.pending with
  | some (p, none) => .ok { r with pending := some (p, some text) }
  | _ => takePath scope r text

/-- Behind the terminator there are only paths. -/
def takeRest (scope : Scope) (r : Reading) (texts : List String) : Except Stop Reading := do
  (← texts.foldlM (takePath scope) r).settle

def take (scope : Scope) (r : Reading) (text : String) : Except Stop Reading :=
  match Argument.ofText text with
  | .terminator => .ok r
  | .long name value =>
    match meaningOfLong? scope name with
    | none => .error .misuse
    | some m => r.takeMeaning value m
  | .letters first =>
    match meaningOfLetter? scope first with
    | none => .error .misuse
    | some s => r.takeMeaning none (.stop s)
  | .plain text => takePlain scope r text

def takeAll (c : CommandName) (r : Reading) : List String → Except Stop Reading
  | [] => r.settle
  | text :: rest =>
    if Argument.ofText text = .terminator then takeRest (some c) r rest
    else do takeAll c (← r.take (some c) text) rest

end Reading

inductive Command where
  | devices (headless : Bool)
  | reflect (path : Path) (owner : Option Path) (watch : Bool)
  | transpile (path : Path) (owner : Option Path)
deriving DecidableEq, Repr

structure Request where
  config : Path
  command : Command
deriving DecidableEq, Repr

def Command.ofReading (c : CommandName) (r : Reading) : Except Stop Command :=
  let owner := (r.value? .owner).map Path.ofText
  match c, r.value? .path with
  | .devices, _ => .ok (.devices (.headless ∈ r.switches))
  | .reflect, some path => .ok (.reflect (.ofText path) owner (.watch ∈ r.switches))
  | .transpile, some path => .ok (.transpile (.ofText path) owner)
  | _, none => .error .misuse

namespace Request

def defaultConfig : String := "config.toml"

/-- A settings file named behind the command wins over one named before it. -/
def ofReadings (c : CommandName) (outer inner : Reading) : Except Stop Request := do
  let command ← Command.ofReading c inner
  let config := ((inner.value? .config).or (outer.value? .config)).getD defaultConfig
  return ⟨.ofText config, command⟩

def helpFor : List String → Stop
  | [] => .help .program
  | [name] =>
    if name = "help" then .help .help
    else ((CommandName.ofText? name).map fun c => Stop.help (.command c)).getD .misuse
  | _ => .misuse

/-- What is open before the command is settled after it. -/
def ofRest (r : Reading) : List String → Except Stop Request
  | [] => .error .misuse
  | text :: rest =>
    match (if r.awaits then none else CommandName.ofText? text) with
    | some c => do
      let inner ← Reading.empty.takeAll c rest
      ofReadings c (← r.settle) inner
    | none =>
      if !r.awaits && text = "help" then .error (helpFor rest)
      else if Argument.ofText text = .terminator then .error .misuse
      else do ofRest (← r.take none text) rest

def ofArguments (arguments : List String) : Except Stop Request := ofRest .empty arguments

end Request

def programName : String := "vkscene"

def versionText : String := programName ++ " 0.1.0\n"

def configLine : String := "      --config <CONFIG>  Configuration file [default: config.toml]"

def ownerLine : String :=
  "      --owner <OWNER>    Directory searched before the configured default root"

def helpLine : String := "  -h, --help             Print help"

namespace CommandName

def summary : CommandName → String
  | .devices => "List physical devices and create a logical device on the selected one"
  | .reflect => "Load a shader and print its reflected layout"
  | .transpile => "Cross-compile a shader to desktop GLSL"

def optionLines : CommandName → List String
  | .devices => [configLine, "      --headless         Do not request the swapchain extension"]
  | .reflect => [configLine, ownerLine,
      "      --watch            Keep running and reprint whenever the shader changes"]
  | .transpile => [configLine, ownerLine]

def usage (c : CommandName) : String :=
  "Usage: " ++ programName ++ " " ++ c.text ++ " [OPTIONS]" ++ (if c.takesPath then " <PATH>" else "")

end CommandName

def helpSummary : String := "Print this message or the help of the given subcommand(s)"

namespace HelpPage

def lines : HelpPage → List String
  | .program => ["Vulkan backend diagnostics", "",
      "Usage: " ++ programName ++ " [OPTIONS] <COMMAND>", "", "Commands:",
      "  devices    " ++ CommandName.devices.summary,
      "  reflect    " ++ CommandName.reflect.summary,
      "  transpile  " ++ CommandName.transpile.summary,
      "  help       " ++ helpSummary, "",
      "Options:", configLine, helpLine, "  -V, --version          Print version"]
  | .command c => [c.summary, "", c.usage, ""] ++
      (if c.takesPath then ["Arguments:", "  <PATH>  ", ""] else []) ++
      "Options:" :: c.optionLines ++ [helpLine]
  | .help => [helpSummary, "", "Usage: " ++ programName ++ " help [COMMAND]...", "", "Arguments:",
      "  [COMMAND]...  Print help for the subcommand(s)"]

def text (p : HelpPage) : String := String.join (p.lines.map (· ++ "\n"))

end HelpPage
end SceneGpu.CommandLine
