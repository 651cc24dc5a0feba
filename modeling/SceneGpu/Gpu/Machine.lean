import SceneGpu.Gpu.Call
import SceneGpu.Report.Failure
import SceneGpu.Report.Journal
/-!
A machine with graphics hardware: what its driver reports, which of its calls fail, the objects alive
in it, and the calls and records made so far.
-/
namespace SceneGpu.Gpu

inductive Message where
  | empty
  | data (severity : Nat) (text : Option String)
deriving DecidableEq, Repr

structure PhysicalDevice where
  properties : DeviceProperties
  families : QueueFamilies
  memory : List UInt32
  /-- The driver reports a null handle for it. -/
  null : Bool
deriving DecidableEq, Repr

structure Requirements where
  bits : UInt32
  align : Nat
  shrink : Nat
deriving DecidableEq, Repr

structure Hardware where
  devices : List PhysicalDevice
  requirements : Requirements
  messages : List Message
deriving DecidableEq, Repr

/-- The code that the nth call of a function fails with, counted from one. -/
abbrev Plan := Function → Nat → Option ResultCode

def Plan.none : Plan := fun _ _ => Option.none

/-- A plan given by its entries; the count zero stands for every call. -/
def Plan.ofList (entries : List (Function × Nat × ResultCode)) : Plan := fun f n =>
  (entries.find? fun e => e.1 = f && (e.2.1 = 0 || e.2.1 = n)).map (·.2.2)

structure Allocation where
  id : Nat
  length : Nat
deriving DecidableEq, Repr

structure MemoryBlock where
  allocation : Allocation
  bytes : Nat → UInt8

structure DriverBuffer where
  handle : Handle
  size : Nat
  bound : Option Allocation
deriving DecidableEq, Repr

inductive BufferRole where
  | data (name : String) (usage : UInt32)
  | uniform (spec : Spec)
deriving DecidableEq, Repr

def BufferRole.name : BufferRole → String
  | .data name _ => name
  | .uniform spec => spec.name

/-- A buffer held by the program. Its handle is null and its allocation gone once it is destroyed. -/
structure HostBuffer where
  role : BufferRole
  handle : Handle
  size : Nat
  allocation : Option Allocation
deriving DecidableEq, Repr

abbrev BufferRef := Nat

structure Machine where
  hardware : Hardware
  plan : Plan
  /-- The calls of each function since the plan was made. -/
  counts : Function → Nat
  nextHandle : Handle
  nextAllocation : Nat
  nextInstance : Nat
  buffers : List DriverBuffer
  blocks : List MemoryBlock
  held : List HostBuffer
  calls : List Call
  records : List Record

namespace Machine

def start (hardware : Hardware) (plan : Plan) : Machine where
  hardware := hardware
  plan := plan
  counts := fun _ => 0
  nextHandle := 1
  nextAllocation := 0
  nextInstance := 0
  buffers := []
  blocks := []
  held := []
  calls := []
  records := []

def withPlan (m : Machine) (plan : Plan) : Machine := { m with plan, counts := fun _ => 0 }

def nextFailure (m : Machine) (f : Function) : Option ResultCode := m.plan f (m.counts f + 1)

def count (m : Machine) (f : Function) : Machine :=
  { m with counts := fun g => if g = f then m.counts f + 1 else m.counts g }

def record (m : Machine) (c : Call) : Machine := { m with calls := m.calls ++ [c] }

def block? (m : Machine) (a : Allocation) : Option MemoryBlock :=
  m.blocks.find? fun b => b.allocation = a

/-- The bytes of a bound buffer; those past its memory are zero. -/
def contents? (m : Machine) (buffer : Handle) : Option (List UInt8) := do
  let b ← m.buffers.find? (·.handle = buffer)
  let a ← b.bound
  let block ← m.block? a
  return (List.range b.size).map fun i => if i < a.length then block.bytes i else 0

end Machine

abbrev Action (α : Type) := Effect Machine α

namespace Action

def say (rs : List Record) : Action Unit :=
  Effect.change fun m => { m with records := m.records ++ rs }

def ofLogged {α : Type} (x : Logged α) : Action α := do
  say x.records
  Effect.ofResult x.result

def called (c : Call) : Action Unit := Effect.change (·.record c)

def attempt (f : Function) : Action Unit := fun m =>
  match m.nextFailure f with
  | none => (.ok (), m.count f)
  | some code => (.error (Failure.ofCause (.driver code)), (m.count f).record (.failed f code))

def fresh : Action Handle := fun m => (.ok m.nextHandle, { m with nextHandle := m.nextHandle + 1 })

def create (f : Function) (call : Handle → Call) : Action Handle := do
  attempt f
  let h ← fresh
  called (call h)
  return h

end Action
end SceneGpu.Gpu
