import SceneGpu.CommandLine.Arguments
import SceneGpu.CommandLine.Task
import SceneGpu.Config.Load
import SceneGpu.Files.Watch
import SceneGpu.Report.Journal
/-!
One run of the program: from the arguments and what the program finds around it to what it prints,
logs and does, and the code it ends with. A watched shader is loaded and listed again whenever a cached
file of it changed.
-/
namespace SceneGpu.CommandLine

structure Watching where
  target : Target
  settings : ShaderSettings
  library : Library
  watcher : Files.Watcher

structure Round where
  next : Watching
  records : List Record
  printed : String

namespace Watching

def rootRemark (t : Files.Tree) (root : Path) : Record :=
  if t.isDirectory root then
    .remark .info .watch ("Watching " ++ root.display ++ " for shader changes")
  else .remark .debug .watch ("Not watching " ++ root.display ++ ": not a directory")

def startRemarks (t : Files.Tree) (roots : List Path) : List Record :=
  roots.map (rootRemark t) ++
    [.remark .info .command "Watching for changes, press Ctrl-C to stop"]

def start (w : Tools.Workshop) (settings : ShaderSettings) (target : Target) (library : Library) :
    Logged Watching :=
  let roots := library.roots target.owner
  ⟨startRemarks w.tree roots, .ok ⟨target, settings, library, .start w.tree roots⟩⟩

def reload (w : Watching) (shop : Tools.Workshop) : Round :=
  let r := w.target.load w.library (servicesOf shop w.settings) shop.tree
  let next := { w with library := r.library }
  match r.outcome.result with
  | .ok l => ⟨next, r.outcome.records, String.join ((moduleLines l.module).map (· ++ "\n"))⟩
  | .error f => ⟨next, r.outcome.records ++ [.remark .error .command f.message], ""⟩

def round (w : Watching) (shop : Tools.Workshop) (changed : List Files.Place) : Round :=
  let (watcher, paths) := (w.watcher.notice shop.tree changed).drain
  let (library, removed) := w.library.invalidateAll shop.tree paths
  let w := { w with watcher, library }
  if removed = 0 then ⟨w, [], ""⟩ else w.reload shop

end Watching

open Gpu

structure Surroundings where
  workshop : Tools.Workshop
  environment : String → Option String
  /-- None without a graphics library. -/
  graphics : Option (Hardware × Plan)

structure Outcome where
  code : Nat
  output : String
  /-- What was wrong with the directives. -/
  warnings : List String
  /-- The records shown. -/
  records : List Record
  /-- The account of the failure, if there was one. -/
  account : String
  calls : List Call
  /-- What the program goes on watching. -/
  watching : Option Watching

def Outcome.remainder (o : Outcome) : String :=
  String.join (o.warnings.map (· ++ "\n")) ++ String.join (o.records.map Record.overflow) ++ o.account

def Stop.outcome : Stop → Outcome
  | .misuse => ⟨2, "", [], [], "", [], none⟩
  | .version => ⟨0, versionText, [], [], "", [], none⟩
  | .help page => ⟨0, page.text, [], [], "", [], none⟩

def directivesVariable : String := "RUST_LOG"

/-- Until the settings are read, records up to remarks of interest are shown. -/
def firstFilter : LogFilter := some .info

namespace Surroundings

def startMachine (s : Surroundings) : Machine :=
  match s.graphics with
  | some (hardware, plan) => .start hardware plan
  | none => .start ⟨[], ⟨0, 1, 0⟩, []⟩ .none

def listDevices (s : Surroundings) (settings : DeviceSettings) (headless : Bool) : Task Unit :=
  if s.graphics.isSome then
    devices programName { settings with headless := settings.headless || headless }
  else devicesWithoutLibrary programName

def reflectShader (s : Surroundings) (settings : ShaderSettings) (target : Target) (watch : Bool) :
    Task (Option Watching) := do
  let library ← reflect s.workshop settings target
  if watch || settings.watch then
    return some (← Task.ofLogged (Watching.start s.workshop settings target library))
  return none

def task (s : Surroundings) (settings : Settings) : Command → Task (Option Watching)
  | .devices headless => do
    s.listDevices settings.device headless
    return none
  | .reflect path owner watch => s.reflectShader settings.shaders ⟨path, owner⟩ watch
  | .transpile path owner => do
    transpile s.workshop settings.shaders ⟨path, owner⟩
    return none

/-- Directives in the environment decide on all records; otherwise the settings decide on those that
come after their reading. -/
def shown (directives : Option Directives) (settings : Settings) (loading working : List Record) :
    List Record :=
  match directives with
  | some ds => (loading ++ working).filter ds.shows
  | none =>
    let (filter, remarks) := settings.logLevel
    (loading ++ remarks).filter (fun r => firstFilter.admits r.level) ++
      working.filter fun r => filter.admits r.level

def perform (s : Surroundings) (r : Request) : Outcome :=
  let directives := (s.environment directivesVariable).map Directives.ofText
  let (settings, loading) :=
    Settings.load s.workshop.tree (s.environment disableWorkaroundsVariable) r.config
  let (result, desk) := s.task settings r.command ⟨s.startMachine, ""⟩
  let records := shown directives settings loading desk.machine.records
  let warnings := (directives.map Directives.warnings).getD []
  let calls := desk.machine.calls
  match result with
  | .ok watching => ⟨0, desk.printed, warnings, records, "", calls, watching⟩
  | .error f => ⟨1, desk.printed, warnings, records, f.account, calls, none⟩

def run (s : Surroundings) (arguments : List String) : Outcome :=
  match Request.ofArguments arguments with
  | .error stop => stop.outcome
  | .ok r => s.perform r

end Surroundings
end SceneGpu.CommandLine
