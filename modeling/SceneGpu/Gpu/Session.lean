import SceneGpu.Object.State
/-!
A session on a machine: at most one instance, one device and one object. An instance lives as long as
the session or the device holds it, and what is replaced is let go after its successor is made.
-/
namespace SceneGpu.Gpu

structure Session where
  machine : Machine
  settings : DeviceSettings
  current : Option Instance
  device : Option Device
  object : ObjectState
  /-- The buffers made so far that have not been given to the object. -/
  buffers : List (Option BufferRef)
  uniforms : List BufferRef
  detached : List Detached

namespace Session

def start (machine : Machine) (settings : DeviceSettings) : Session where
  machine := machine
  settings := settings
  current := none
  device := none
  object := {}
  buffers := []
  uniforms := []
  detached := []

def run {α : Type} (s : Session) (x : Action α) : Except Failure α × Session :=
  let r := x s.machine
  (r.1, { s with machine := r.2 })

def perform (s : Session) (x : Action Unit) : Session := (s.run x).2

def usesInstance (s : Session) (i : Instance) : Bool :=
  (s.current.any (·.id = i.id)) || (s.device.any (·.owner.id = i.id))

def letGo (s : Session) (i : Option Instance) : Session :=
  match i with
  | none => s
  | some i => if s.usesInstance i then s else s.perform i.destroy

def openInstance (s : Session) (application : String) : Except Failure Unit × Session :=
  match s.run (Instance.create application s.settings) with
  | (.error e, s) => (.error e, s)
  | (.ok i, s) => (.ok (), { s with current := some i }.letGo s.current)

def dropInstance (s : Session) : Session := { s with current := none }.letGo s.current

def physicalDevices (s : Session) : Except Failure (List Handle) × Session :=
  s.run (do return (← Instance.physicalDevices).map (·.1))

def closeDevice (s : Session) (d : Option Device) : Session :=
  match d with
  | none => s
  | some d => (s.perform d.close).letGo (some d.owner)

def dropDevice (s : Session) : Session := { s with device := none }.closeDevice s.device

def select (s : Session) (r : DeviceRequest) (table : WorkaroundTable) :
    Except Failure (Option Device) × Session :=
  match s.current with
  | none => (.ok none, s)
  | some i =>
    match s.run (Device.select i r table s.settings.disableWorkarounds) with
    | (.error e, s) => (.error e, s)
    | (.ok d, s) => (.ok (some d), { s with device := some d }.closeDevice s.device)

def sameInstance (s : Session) : Bool :=
  match s.current, s.device with
  | some i, some d => i.id = d.owner.id
  | _, _ => false

/-- Lets go of everything, the device before the instance. -/
def finish (s : Session) : Session := s.dropDevice.dropInstance

def held? (s : Session) (r : BufferRef) : Option HostBuffer := s.machine.held[r]?

def addBuffer (s : Session) (name : String) (usage : UInt32) (bytes : List UInt8) :
    Except Failure (Option Nat) × Session :=
  match s.device with
  | none => (.ok none, s)
  | some d =>
    match s.run (Buffer.withData d name usage bytes) with
    | (.error e, s) => (.error e, s)
    | (.ok b, s) => (.ok (some s.buffers.length), { s with buffers := s.buffers ++ [some b] })

def addUniform (s : Session) (spec : Spec) : Except Failure (Option Nat) × Session :=
  match s.device with
  | none => (.ok none, s)
  | some d =>
    match s.run (Buffer.fromSpec d spec) with
    | (.error e, s) => (.error e, s)
    | (.ok b, s) => (.ok (some s.uniforms.length), { s with uniforms := s.uniforms ++ [b] })

def buffer? (s : Session) (id : Nat) : Option BufferRef := (s.buffers[id]?).join

def publishBuffer (s : Session) (id : Nat) (name : String) : Option BufferRef × Session :=
  match s.buffer? id with
  | none => (none, s)
  | some b =>
    let r := s.object.setVertexBuffer name b
    (r.2, { s with object := r.1, buffers := s.buffers.set id none })

def retractBuffer (s : Session) (name : String) : Bool × Session :=
  (s.object.vertexBuffers.contains name,
    { s with object := { s.object with vertexBuffers := s.object.vertexBuffers.erase name } })

def runObject {α : Type} (s : Session) (x : ObjectState.Step Machine α) :
    Except Failure α × Session :=
  (x.result, { s with
    object := x.object, machine := { x.backend with records := x.backend.records ++ x.records } })

def bindTextures (s : Session) (layout pool : Handle) (binding : UInt32) :
    Except Failure Handle × Session :=
  s.runObject (s.object.bindTextures deviceBackend layout pool binding s.machine)

def release (s : Session) : Except Failure Unit × Session :=
  s.runObject (s.object.release deviceBackend s.machine)

def detach (s : Session) : Except Failure Detached × Session :=
  match s.runObject (s.object.detach deviceBackend s.machine) with
  | (.error e, s) => (.error e, s)
  | (.ok r, s) => (.ok r, { s with detached := s.detached ++ [r] })

def destroyObject (s : Session) : Except Failure Unit × Session :=
  match s.runObject (s.object.detach deviceBackend s.machine) with
  | (.error e, s) => (.error e, s)
  | (.ok r, s) => s.run r.destroy

def createUniformBuffers (s : Session) (modules : List ShaderModule) :
    Except Failure (Option Nat) × Session :=
  match s.device with
  | none => (.ok none, s)
  | some d =>
    match s.run (s.object.createUniformBuffers d modules) with
    | (.error e, s) => (.error e, s)
    | (.ok (o, n), s) => (.ok (some n), { s with object := o })

end Session
end SceneGpu.Gpu
