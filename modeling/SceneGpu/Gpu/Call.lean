import SceneGpu.Device.Descriptor
import SceneGpu.Device.Queue
import SceneGpu.Object.Texture
import SceneGpu.Pipeline.Layout
/-!
The graphics driver's functions, and the calls that are recorded of them.
-/
namespace SceneGpu.Gpu

inductive Function where
  | createInstance
  | createMessenger
  | enumerateDevices
  | createDevice
  | waitIdle
  | createCommandPool
  | createBuffer
  | bindMemory
  | allocateMemory
  | mapMemory
  | createShaderModule
  | createDescriptorPool
  | allocateSets
  | freeSets
  | createSetLayout
  | createPipelineLayout
  | createPipeline
deriving DecidableEq, Repr

namespace Function

def name : Function → String
  | .createInstance => "vkCreateInstance"
  | .createMessenger => "vkCreateDebugUtilsMessengerEXT"
  | .enumerateDevices => "vkEnumeratePhysicalDevices"
  | .createDevice => "vkCreateDevice"
  | .waitIdle => "vkDeviceWaitIdle"
  | .createCommandPool => "vkCreateCommandPool"
  | .createBuffer => "vkCreateBuffer"
  | .bindMemory => "vkBindBufferMemory"
  | .allocateMemory => "vkAllocateMemory"
  | .mapMemory => "vkMapMemory"
  | .createShaderModule => "vkCreateShaderModule"
  | .createDescriptorPool => "vkCreateDescriptorPool"
  | .allocateSets => "vkAllocateDescriptorSets"
  | .freeSets => "vkFreeDescriptorSets"
  | .createSetLayout => "vkCreateDescriptorSetLayout"
  | .createPipelineLayout => "vkCreatePipelineLayout"
  | .createPipeline => "vkCreateGraphicsPipelines"

def all : List Function :=
  [.createInstance, .createMessenger, .enumerateDevices, .createDevice, .waitIdle,
    .createCommandPool, .createBuffer, .bindMemory, .allocateMemory, .mapMemory,
    .createShaderModule, .createDescriptorPool, .allocateSets, .freeSets, .createSetLayout,
    .createPipelineLayout, .createPipeline]

def ofName? (name : String) : Option Function := all.find? (·.name = name)

end Function

structure InstanceInfo where
  application : String
  extensions : List String
  layers : List String
deriving DecidableEq, Repr

structure DeviceInfo where
  physical : Handle
  groups : List QueueGroup
  extensions : List String
  layers : List String
deriving DecidableEq, Repr

structure PipelineInfo where
  renderPass : Handle
  subpass : UInt32
  stages : List (UInt32 × Handle)
  vertex : VertexDescription
  topology : Nat
  cullMode : UInt32
  depthTest : Bool
  colorAttachments : Nat
  layout : Handle
deriving DecidableEq, Repr

/-- A call that was made; a new object's handle comes last. Calls that read are not recorded unless
they fail, and calls for memory never are. -/
inductive Call where
  | failed (function : Function) (code : ResultCode)
  | createInstance (info : InstanceInfo)
  | destroyInstance
  | createMessenger (handle : Handle)
  | callback (answer : Nat)
  | destroyMessenger (handle : Handle)
  | createDevice (info : DeviceInfo)
  | getQueue (family index : Nat) (handle : Handle)
  | waitIdle
  | destroyDevice
  | createCommandPool (family : UInt32) (handle : Handle)
  | destroyCommandPool (handle : Handle)
  | createBuffer (size : Nat) (usage : UInt32) (handle : Handle)
  | bindMemory (buffer : Handle)
  | destroyBuffer (handle : Handle)
  | createShaderModule (words : List UInt32) (handle : Handle)
  | destroyShaderModule (handle : Handle)
  | createDescriptorPool (maxSets : UInt32) (sizes : List (UInt32 × UInt32)) (handle : Handle)
  | createSetLayout (bindings : List LayoutBinding) (handle : Handle)
  | allocateSets (pool : Handle) (layouts sets : List Handle)
  | freeSets (pool : Handle) (sets : List Handle)
  | updateSets (writes : List (Handle × ImageWrite))
  | createPipelineLayout (layouts : List Handle) (handle : Handle)
  | createPipeline (info : PipelineInfo) (handle : Handle)
  | destroyPipeline (handle : Handle)
  | destroyPipelineLayout (handle : Handle)
deriving DecidableEq, Repr

end SceneGpu.Gpu
