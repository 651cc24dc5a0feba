import SceneGpu.Device.Descriptor
import SceneGpu.Device.Workaround
import SceneGpu.Gpu.Instance
/-!
Logical devices: choosing a physical device, passing the workarounds, creating the device with its
queues and allocator, what it makes of shader modules and pipelines, and closing it.
-/
namespace SceneGpu.Gpu

structure Device where
  physical : Handle
  descriptor : DeviceDescriptor
  families : RoleFamilies
  queues : List Handle
  memory : MemoryTypes
  extensions : List String
  owner : Instance
deriving DecidableEq, Repr

namespace Device

def remark (level : Level) (text : String) : Record := .remark level .setup text

def groupRemarks (groups : List QueueGroup) : List Record :=
  remark .info s!"Creating {groups.length} distinct queue groups" ::
    groups.map fun g =>
      remark .debug s!"Adding queue with family index {g.family}, size {g.count}"

def validationWarning : Record :=
  .warning .device "Enabled Vulkan API validations. Expect degraded performance."

def getQueue (slot : Nat × Nat) : Action Handle := do
  let h ← Action.fresh
  Action.called (.getQueue slot.1 slot.2 h)
  return h

def getQueues : List (Nat × Nat) → Action (List Handle)
  | [] => Effect.succeed []
  | slot :: rest => do
    let h ← getQueue slot
    let hs ← getQueues rest
    return h :: hs

def allocatorFailure : Failure :=
  ⟨["Failed to create memory allocator"],
    .memory "Invalid AllocatorCreateDesc AllocatorCreateDesc field `physical_device` is null."⟩

def createAllocator (physical : Handle) : Action Unit :=
  if physical = 0 then Effect.fail allocatorFailure else Effect.succeed ()

def creationFailure (f : Failure) : Failure :=
  match f.cause with
  | .driver code => Failure.ofCause (.deviceCreation code)
  | _ => f

def createBare (info : DeviceInfo) : Action Unit := do
  (Action.attempt .createDevice).mapFailure creationFailure
  Action.called (.createDevice info)

def create (owner : Instance) (physical : Handle) (p : PhysicalDevice) (d : DeviceDescriptor)
    (r : DeviceRequest) : Action Device := do
  let families := RoleFamilies.resolve p.families
  Action.say (groupRemarks families.groups)
  Action.say [remark .debug ("Requested extensions: " ++ ", ".intercalate r.extensions)]
  Effect.ofResult (within "Invalid device extension name" (checkQuotedNames r.extensions))
  Action.say (if r.layers.isEmpty then [] else [validationWarning])
  Effect.ofResult (within "Invalid validation layer name" (checkQuotedNames r.layers))
  Action.say [remark .debug "Creating device..."]
  createBare ⟨physical, families.groups, r.extensions, r.layers⟩
  let queues ← getQueues families.slots
  (createAllocator physical).orElseDo (Action.called .destroyDevice)
  Action.say [remark .debug ("Created logical Vulkan device on " ++ d.display)]
  return ⟨physical, d, families, queues, .ofFlags p.memory, r.extensions, owner⟩

def listingRecords (descriptors : List DeviceDescriptor) (chosen : Nat) : List Record :=
  remark .info "Physical devices:" :: (deviceListing descriptors chosen).map (remark .info)

def select (owner : Instance) (r : DeviceRequest) (table : WorkaroundTable) (disabled : Bool) :
    Action Device := do
  let devices ← Instance.physicalDevices
  let descriptors := devices.map fun d => DeviceDescriptor.ofProperties d.2.properties
  let chosen ← Effect.ofResult (chooseDevice descriptors r.accepts)
  match devices[chosen]?, descriptors[chosen]? with
  | some (physical, p), some d =>
    Action.say (listingRecords descriptors chosen)
    let _ ← Action.ofLogged (table.apply disabled d)
    create owner physical p d r
  | _, _ => Effect.fail (Failure.ofCause .noDevices)

def memoryTypes (d : Device) (bits flags : UInt32) : Action (List Nat) := do
  let found := d.memory.select bits flags
  Action.say (if found.isEmpty then
    [remark .warn ("Memory type " ++ memoryFlagText flags ++ " not found for device " ++
      d.descriptor.display)] else [])
  return found

def poolFailure (family : UInt32) (f : Failure) : Failure :=
  match f.cause with
  | .driver code => Failure.ofCause (.commandPool family code)
  | _ => f

def createCommandPool (family : UInt32) : Action Handle :=
  (Action.create .createCommandPool (.createCommandPool family)).mapFailure (poolFailure family)

def destroyCommandPool (pool : Handle) : Action Unit := Action.called (.destroyCommandPool pool)

def waitIdle : Action Unit := do
  Action.attempt .waitIdle
  Action.called .waitIdle

/-- Waits for the device and destroys it; a wait that fails is only logged. -/
def close (d : Device) : Action Unit := do
  Action.say [remark .debug ("Closing device " ++ d.descriptor.display ++ "...")]
  match ← waitIdle.outcome with
  | .ok () => Effect.succeed ()
  | .error f => Action.say [remark .warn ("Device wait failed during teardown: " ++ f.message)]
  Action.called .destroyDevice
  Action.say [remark .debug "Device closed."]

end Device

structure PipelineHandle where
  pipeline : Handle
  layout : Handle
deriving DecidableEq, Repr

def createShaderModule (m : ShaderModule) : Action Handle :=
  if !m.isUsable then
    Effect.fail (.plain (m.path.display ++ " failed to compile, no bytecode to upload"))
  else (Action.create .createShaderModule (.createShaderModule m.bytecode)).within
    ("Failed to create shader module for " ++ m.path.display)

def destroyShaderModule (h : Handle) : Action Unit := Action.called (.destroyShaderModule h)

def createDescriptorPool (maxSets : UInt32) (sizes : List (UInt32 × UInt32)) : Action Handle :=
  (Action.create .createDescriptorPool (.createDescriptorPool maxSets sizes)).within
    "Failed to create descriptor pool"

def createSetLayout (bindings : List LayoutBinding) : Action Handle :=
  (Action.create .createSetLayout (.createSetLayout bindings)).within
    "Failed to create descriptor set layout"

def createPipelineLayout (layouts : List Handle) : Action Handle :=
  (Action.create .createPipelineLayout (.createPipelineLayout layouts)).within
    "Failed to create pipeline layout"

/-- The pipeline owns the layout it was made with. -/
def createPipeline (info : PipelineInfo) : Action PipelineHandle := do
  let h ← (Action.create .createPipeline (.createPipeline info)).within
    "Failed to create graphics pipeline"
  return ⟨h, info.layout⟩

def PipelineHandle.destroy (p : PipelineHandle) : Action Unit := do
  Action.called (.destroyPipeline p.pipeline)
  Action.called (.destroyPipelineLayout p.layout)

end SceneGpu.Gpu
