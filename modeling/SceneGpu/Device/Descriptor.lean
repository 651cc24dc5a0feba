import SceneGpu.Config.Settings
import SceneGpu.Report.Journal
import SceneGpu.Text.Basic
/-!
What is known of a physical device and of its memory, the choice among devices, and what is asked of
one: which it is, and the extensions and layers to enable.
-/
namespace SceneGpu

inductive DeviceType where
  | unknown
  | other
  | integrated
  | discrete
  | virtual
  | cpu
deriving DecidableEq, Repr

def DeviceType.name : DeviceType → String
  | .unknown => "Unknown"
  | .other => "Other"
  | .integrated => "IntegratedGPU"
  | .discrete => "DiscreteGPU"
  | .virtual => "VirtualGPU"
  | .cpu => "CPU"

def DeviceType.ofCode : Int → DeviceType
  | 0 => .other
  | 1 => .integrated
  | 2 => .discrete
  | 3 => .virtual
  | 4 => .cpu
  | _ => .unknown

def vendorName (vendor : UInt32) : String :=
  match vendor.toNat with
  | 0x1002 => "AMD"
  | 0x10DE => "Nvidia"
  | 0x8086 => "Intel"
  | _ => "(Unknown vendor)"

def decodeVersion (v : UInt32) : String :=
  ".".intercalate [toString (v >>> 22).toNat, toString ((v >>> 12) &&& 0x3FF).toNat,
    toString (v &&& 0xFFF).toNat]

/-- What a driver reports of a device; the name's bytes need not be text. -/
structure DeviceProperties where
  vendor : UInt32
  driverVersion : UInt32
  apiVersion : UInt32
  deviceType : Int
  name : List UInt8
deriving DecidableEq, Repr

structure DeviceDescriptor where
  vendor : String
  name : String
  driverVersion : String
  apiVersion : String
  deviceType : DeviceType
deriving DecidableEq, Repr

namespace DeviceDescriptor

def ofProperties (p : DeviceProperties) : DeviceDescriptor where
  vendor := vendorName p.vendor
  name := Utf8.decodeTextLossy (p.name.takeWhile (· ≠ 0))
  driverVersion := decodeVersion p.driverVersion
  apiVersion := decodeVersion p.apiVersion
  deviceType := DeviceType.ofCode p.deviceType

def driverMajor (d : DeviceDescriptor) : Option Nat :=
  Text.readWord? (d.driverVersion.toList.takeWhile (· ≠ '.'))

def display (d : DeviceDescriptor) : String := d.vendor ++ " " ++ d.name

end DeviceDescriptor

abbrev DevicePredicate := Nat → DeviceDescriptor → Bool

def lastAccepted? (accepts : DevicePredicate) : Nat → List DeviceDescriptor → Option Nat
  | _, [] => none
  | i, d :: rest =>
    (lastAccepted? accepts (i + 1) rest).or (if accepts i d then some i else none)

/-- The first device is taken if none is accepted. -/
def chooseDevice (devices : List DeviceDescriptor) (accepts : DevicePredicate) :
    Except Failure Nat :=
  if devices.isEmpty then .error (Failure.ofCause .noDevices)
  else .ok ((lastAccepted? accepts 0 devices).getD 0)

def listingLine (selected i : Nat) (d : DeviceDescriptor) : String :=
  s!"  {i}: " ++ d.display ++ " (" ++ d.deviceType.name ++ ", driver version " ++ d.driverVersion ++
    ", Vulkan API " ++ d.apiVersion ++ ")" ++ (if i = selected then " (selected)" else "")

def deviceListing (devices : List DeviceDescriptor) (selected : Nat) : List String :=
  devices.mapIdx (listingLine selected)

structure DeviceRequest where
  accepts : DevicePredicate
  extraExtensions : List String
  layers : List String
  headless : Bool

namespace DeviceRequest

def swapchainExtension : String := "VK_KHR_swapchain"

def ofSettings (s : DeviceSettings) : DeviceRequest where
  accepts := fun _ d => s.preferredDevice ≠ "" && Text.contains d.display s.preferredDevice
  extraExtensions := s.extensions
  layers := s.enabledLayers
  headless := s.headless

def withPredicate (r : DeviceRequest) (accepts : DevicePredicate) : DeviceRequest :=
  { r with accepts }

def extensions (r : DeviceRequest) : List String :=
  (if r.headless then [] else [swapchainExtension]) ++ r.extraExtensions

end DeviceRequest

/-- The memory types of a device; those past the flags listed have none. -/
structure MemoryTypes where
  count : Nat
  flags : List UInt32
deriving DecidableEq, Repr

def maxMemoryTypes : Nat := 32

/-- Host-visible and host-coherent. -/
def hostMemory : UInt32 := 6

def MemoryTypes.ofFlags (flags : List UInt32) : MemoryTypes := ⟨flags.length, flags⟩

def MemoryTypes.select (m : MemoryTypes) (bits flags : UInt32) : List Nat :=
  (List.range (min m.count maxMemoryTypes)).filter fun i =>
    bits.toNat.testBit i && (m.flags.getD i 0 &&& flags = flags)

def memoryFlagNames : List (Nat × String) :=
  [(0, "DEVICE_LOCAL"), (1, "HOST_VISIBLE"), (2, "HOST_COHERENT"), (3, "HOST_CACHED"),
    (4, "LAZILY_ALLOCATED"), (6, "DEVICE_COHERENT_AMD"), (7, "DEVICE_UNCACHED_AMD"),
    (8, "RDMA_CAPABLE_NV"), (5, "PROTECTED")]

def memoryFlagText (flags : UInt32) : String :=
  let named := memoryFlagNames.filter fun n => flags.toNat.testBit n.1
  let rest := named.foldl (fun left n => left - (1 <<< n.1)) flags.toNat
  let more := if rest = 0 then [] else [String.ofList (Nat.toDigits 2 rest)]
  " | ".intercalate (named.map (·.2) ++ more)

end SceneGpu
