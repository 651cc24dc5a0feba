import SceneGpu.Gpu.Device
import SceneGpu.Shader.CrossCompile
import SceneGpu.Shader.Library
/-!
The tasks of the command line: bringing up a device and taking it down again, listing what a shader
declares, and writing its desktop source. A task works at a desk, which holds the machine and what
has been printed.
-/
namespace SceneGpu.CommandLine

open Gpu

structure Desk where
  machine : Machine
  printed : String

abbrev Task (α : Type) := Effect Desk α

namespace Task

def onMachine {α : Type} (x : Action α) : Task α := fun d =>
  let r := x d.machine
  (r.1, { d with machine := r.2 })

def print (text : String) : Task Unit := Effect.change fun d => { d with printed := d.printed ++ text }

def printLines (lines : List String) : Task Unit := print (String.join (lines.map (· ++ "\n")))

def ofLogged {α : Type} (x : Logged α) : Task α := onMachine (Action.ofLogged x)

end Task

def deviceLines (d : Device) : List String :=
  ["Selected " ++ d.descriptor.display ++ " (" ++ d.descriptor.deviceType.name ++ ")",
    "Queue families: graphics=" ++ toString d.families.graphics ++ " transfer=" ++
      toString d.families.transfer ++ " compute=" ++ toString d.families.compute,
    "Extensions: " ++ ", ".intercalate d.extensions]

def tryPool (family : UInt32) : Action Unit := do
  let pool ← Device.createCommandPool family
  Device.destroyCommandPool pool

def libraryFailure : Failure :=
  let cause := "libvulkan.so.1: cannot open shared object file: No such file or directory"
  ⟨["Failed to load Vulkan library. Is Vulkan installed?", cause], .plain cause⟩

def useDevice (d : Device) : Task Unit := do
  Task.printLines (deviceLines d)
  Task.onMachine (tryPool (UInt32.ofNat d.families.graphics))

def selectDevice (i : Instance) (s : DeviceSettings) : Action Device :=
  Device.select i (.ofSettings s) [] s.disableWorkarounds

/-- The device is closed and the instance destroyed however their use ends. -/
def devices (application : String) (s : DeviceSettings) : Task Unit := do
  let i ← Task.onMachine (Instance.create application s)
  Effect.ensuring (do
      let d ← Task.onMachine (selectDevice i s)
      (useDevice d).ensuring (Task.onMachine d.close))
    (Task.onMachine i.destroy)

def devicesWithoutLibrary (application : String) : Task Unit := do
  Task.onMachine (Action.say [Instance.creationRemark application])
  Effect.fail libraryFailure

def memberLine (m : Member) : String :=
  "    [" ++ toString m.index ++ "] " ++ m.name ++ " offset=" ++ toString m.offset ++ " range=" ++
    toString m.range

def bindingText (s : Spec) : String :=
  "set=" ++ toString s.set ++ " binding=" ++ toString s.binding

def specLines (key : String) (s : Spec) : List String :=
  match s.kind with
  | .uniformBuffer =>
    ("  " ++ key ++ ": " ++ bindingText s ++ " size=" ++ toString s.size) :: s.members.map memberLine
  | .inputTextures => ["  " ++ key ++ ": " ++ s.name ++ " " ++ bindingText s]

def moduleLines (m : ShaderModule) : List String :=
  (m.path.display ++ " (" ++ m.stage.name ++ ", " ++ toString m.bytecode.length ++ " words" ++
      (if m.isUsable then "" else ", compilation failed") ++ ")") ::
    m.specs.entries.flatMap (fun e => specLines e.1 e.2) ++
    (if m.stageInputs.isEmpty then [] else ["  inputs: " ++ ", ".intercalate m.stageInputs])

structure Target where
  path : Path
  owner : Option Path
deriving DecidableEq, Repr

def Target.load (t : Target) (l : Library) (services : Services) (tree : Files.Tree) : Library.Load :=
  l.load services tree t.path t.owner

def servicesOf (w : Tools.Workshop) (s : ShaderSettings) : Services :=
  ⟨ToolCompiler.compiler w s.compiler, Bytecode.introspect⟩

def loadModule (w : Tools.Workshop) (s : ShaderSettings) (t : Target) : Task (Library × ShaderModule) := do
  let r := t.load (.withRoot s.defaultRoot) (servicesOf w s) w.tree
  let loaded ← Task.ofLogged r.outcome
  return (r.library, loaded.module)

def reflect (w : Tools.Workshop) (s : ShaderSettings) (t : Target) : Task Library := do
  let (library, m) ← loadModule w s t
  Task.printLines (moduleLines m)
  return library

def transpile (w : Tools.Workshop) (s : ShaderSettings) (t : Target) : Task Unit := do
  let (_, m) ← loadModule w s t
  let emit := ToolEmitter.emitter w s.crossCompiler
  let shader ← Task.ofLogged (crossCompile m emit s.legacyVersion)
  Task.print shader.source

end SceneGpu.CommandLine
