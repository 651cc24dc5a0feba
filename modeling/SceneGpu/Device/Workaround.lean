import SceneGpu.Device.Descriptor
/-!
Device workarounds: rules tried in order on the chosen device. A rule that matches is announced and
its action runs; an action that fails ends the pass.
-/
namespace SceneGpu

structure Workaround where
  description : String
  applies : DeviceDescriptor → Bool
  action : DeviceDescriptor → Logged Unit

abbrev WorkaroundTable := List Workaround

namespace Workaround

def announcement (w : Workaround) : Record :=
  .warning .device ("Workaround activated: " ++ w.description)

def abort (w : Workaround) (f : Failure) : Failure :=
  Failure.ofCause (.workaroundAborted w.description f.message)

def run (w : Workaround) (d : DeviceDescriptor) : Logged Unit :=
  let action := w.action d
  ⟨w.announcement :: action.records, action.result.mapError w.abort⟩

end Workaround

namespace WorkaroundTable

def matching (t : WorkaroundTable) (d : DeviceDescriptor) : List Workaround :=
  t.filter (·.applies d)

def runAll (d : DeviceDescriptor) : List Workaround → Logged Nat
  | [] => Logged.succeed 0
  | w :: rest => do
    w.run d
    let fired ← runAll d rest
    return fired + 1

def disabledWarning : Record :=
  .warning .device
    "Device-specific workarounds disabled upon request, expect weird things to happen."

def apply (t : WorkaroundTable) (disabled : Bool) (d : DeviceDescriptor) : Logged Nat :=
  if disabled then ⟨[disabledWarning], .ok 0⟩ else runAll d (t.matching d)

end WorkaroundTable

def nextGenCompilerVariable : String := "__GL_NextGenCompiler"

/-- Drivers from 396 on crash the renderer unless a variable is set. -/
def nextGenCompilerWorkaround (setting : Option String) : Workaround where
  description := "Nvidia 396.xx series drivers are unsupported due to crashing bugs in the driver"
  applies := fun d => d.vendor = "Nvidia" && d.driverMajor.any (396 ≤ ·)
  action := fun d =>
    if setting.isSome then Logged.succeed ()
    else ⟨[.warning .device ("The graphics driver version you are using (" ++ d.driverVersion ++
          ") contains a bug that prevents the Vulkan renderer from functioning correctly."),
        .warning .device ("Please set the environment variable " ++ nextGenCompilerVariable ++
          "=0 and restart the application to work around this issue.")],
      .error (.plain ("bug in graphics driver " ++ d.driverVersion))⟩

structure WorkaroundRule where
  description : String
  vendor : Option String
  minMajor : Option Nat
  warning : Option String
  complaint : Option String
  /-- The sentences of its failure, outermost first; empty if it succeeds. -/
  failure : List String
deriving DecidableEq, Repr

def WorkaroundRule.toWorkaround (r : WorkaroundRule) : Workaround where
  description := r.description
  applies := fun d =>
    r.vendor.all (d.vendor = ·) && r.minMajor.all fun least => d.driverMajor.any (least ≤ ·)
  action := fun _ =>
    ⟨(r.warning.map (Record.warning .other)).toList ++ (r.complaint.map (Record.error .other)).toList,
      match r.failure.getLast? with
      | none => .ok ()
      | some root => .error ⟨r.failure.dropLast, .plain root⟩⟩

end SceneGpu
