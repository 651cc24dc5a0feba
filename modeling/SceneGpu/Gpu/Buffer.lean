import SceneGpu.Gpu.Device
/-!
Host-visible buffers: creation with bound memory, writes, and destruction. A buffer is held under a
reference that its owners share, so destroying it through one of them destroys it for all.
-/
namespace SceneGpu.Gpu

def Requirements.lengthFor (r : Requirements) (size : Nat) : Nat :=
  max 1 ((size + r.align - 1) / r.align * r.align - r.shrink)

namespace Buffer

def uniformUsage : UInt32 := 16

def createHandle (name : String) (size : Nat) (usage : UInt32) : Action Handle := do
  let h ← (Action.create .createBuffer (.createBuffer size usage)).within
    ("Failed to create buffer " ++ name)
  Effect.change fun m => { m with buffers := m.buffers ++ [⟨h, size, none⟩] }
  return h

def destroyHandle (h : Handle) : Action Unit := do
  Effect.change fun m => { m with buffers := m.buffers.filter (·.handle ≠ h) }
  Action.called (.destroyBuffer h)

def tryAllocate : Action Bool := fun m =>
  match m.nextFailure .allocateMemory with
  | some _ => (.ok false, m.count .allocateMemory)
  | none =>
    let counted := m.count .allocateMemory
    (.ok (counted.nextFailure .mapMemory).isNone, counted.count .mapMemory)

def newBlock (length : Nat) : Action Allocation := fun m =>
  let a : Allocation := ⟨m.nextAllocation, length⟩
  (.ok a, { m with nextAllocation := m.nextAllocation + 1, blocks := m.blocks ++ [⟨a, fun _ => 0⟩] })

/-- The allocator tries its preferred memory first and then any that will do. -/
def allocate (name : String) (length : Nat) : Action Allocation := do
  let first ← tryAllocate
  let given ← if first then Effect.succeed true else tryAllocate
  if given then newBlock length
  else Effect.fail ⟨["Failed to allocate memory for " ++ name], .memory "Out of memory"⟩

def free (a : Allocation) : Action Unit :=
  Effect.change fun m => { m with blocks := m.blocks.filter fun b => b.allocation ≠ a }

def bind (name : String) (h : Handle) (a : Allocation) : Action Unit := do
  (Action.attempt .bindMemory).within ("Failed to bind memory for " ++ name)
  Effect.change fun m => { m with
    buffers := m.buffers.map fun b => if b.handle = h then { b with bound := some a } else b }
  Action.called (.bindMemory h)

def requireHostMemory (d : Device) (name : String) : Action Unit := do
  let bits := (← Effect.get).hardware.requirements.bits
  let found ← d.memoryTypes bits hostMemory
  if found.isEmpty then Effect.fail (.plain ("No host-visible memory for buffer " ++ name))
  else Effect.succeed ()

/-- A new buffer with memory. What was made is taken back if a later step fails. -/
def createBound (d : Device) (name : String) (size : Nat) (usage : UInt32) :
    Action (Handle × Allocation) := do
  let h ← createHandle name size usage
  (requireHostMemory d name).orElseDo (destroyHandle h)
  let length := (← Effect.get).hardware.requirements.lengthFor size
  let a ← (allocate name length).orElseDo (destroyHandle h)
  (bind name h a).orElseDo (do
    free a
    destroyHandle h)
  return (h, a)

def writeBlock (a : Allocation) (offset : Nat) (bytes : List UInt8) (m : Machine) : Machine :=
  { m with blocks := m.blocks.map fun b =>
      if b.allocation = a then { b with bytes := fun i =>
        if offset ≤ i then (bytes[i - offset]?).getD (b.bytes i) else b.bytes i } else b }

/-- Writes into mapped memory, all or nothing. -/
def writeMapped (name : String) (allocation : Option Allocation) (offset : Nat)
    (bytes : List UInt8) : Action Unit :=
  match allocation with
  | none => Effect.fail (.plain (name ++ " is not mapped"))
  | some a =>
    if offset + bytes.length ≤ a.length then Effect.change (writeBlock a offset bytes)
    else Effect.fail (.plain
      (s!"Write of {bytes.length} bytes at {offset} overflows " ++ name))

def hold (b : HostBuffer) : Action BufferRef := fun m =>
  (.ok m.held.length, { m with held := m.held ++ [b] })

def get? (r : BufferRef) : Action (Option HostBuffer) := fun m => (.ok m.held[r]?, m)

def destroyed (b : HostBuffer) : HostBuffer := { b with handle := 0, allocation := none }

def release (b : HostBuffer) : Action HostBuffer :=
  match b.allocation with
  | none => Effect.succeed b
  | some a => do
    free a
    destroyHandle b.handle
    return destroyed b

def destroy (r : BufferRef) : Action Unit := do
  match ← get? r with
  | none => Effect.succeed ()
  | some b =>
    let after ← release b
    Effect.change fun m => { m with held := m.held.set r after }

def withData (d : Device) (name : String) (usage : UInt32) (bytes : List UInt8) :
    Action BufferRef :=
  if bytes = [] then Effect.fail (.plain ("Buffer " ++ name ++ " would be empty"))
  else do
    let (h, a) ← createBound d name bytes.length usage
    let b : HostBuffer := ⟨.data name usage, h, bytes.length, some a⟩
    (writeMapped name (some a) 0 bytes).orElseDo (do
      let _ ← release b)
    hold b

def fromSpec (d : Device) (s : Spec) : Action BufferRef := do
  let size := alignedSize s.size
  let (h, a) ← createBound d s.name size uniformUsage
  hold ⟨.uniform s, h, size, some a⟩

def write (r : BufferRef) (offset : Nat) (bytes : List UInt8) : Action Unit := do
  match ← get? r with
  | none => Effect.succeed ()
  | some b => writeMapped b.role.name b.allocation offset bytes

def writeMember (r : BufferRef) (member : String) (bytes : List UInt8) : Action Unit := do
  match ← get? r with
  | some ⟨.uniform s, _, _, allocation⟩ =>
    let range ← Effect.ofResult (s.writeRange member bytes.length)
    writeMapped s.name allocation range.1 bytes
  | _ => Effect.succeed ()

def destroyAll : List BufferRef → Action Unit
  | [] => Effect.succeed ()
  | r :: rest => do
    destroy r
    destroyAll rest

end Buffer
end SceneGpu.Gpu
