import SceneGpu.Config.Settings
import SceneGpu.Gpu.Machine
/-!
The driver instance, and the messenger through which it reports when validation is on.
-/
namespace SceneGpu.Gpu

structure Instance where
  id : Nat
  messenger : Option Handle
deriving DecidableEq, Repr

/-- Names are handed to the driver with a zero byte behind them and so must not hold one. -/
def checkName (name : String) : Except Failure Unit :=
  let bytes := Utf8.encodeText name
  if bytes.contains 0 then .error (Failure.ofCause (.nulInText (bytes.takeWhile (· ≠ 0)).length))
  else .ok ()

def checkNames (names : List String) : Except Failure Unit := names.forM checkName

def checkQuotedNames (names : List String) : Except Failure Unit :=
  names.forM fun n => within ("'" ++ n ++ "' contains a NUL byte") (checkName n)

namespace Instance

def debugExtension : String := "VK_EXT_debug_utils"

def surfaceExtension : String := "VK_KHR_surface"

/-- Reports need the debug extension; showing anything needs surfaces. -/
def extensions (layers : List String) (headless : Bool) : List String :=
  (if layers.isEmpty then [] else [debugExtension]) ++ (if headless then [] else [surfaceExtension])

def errorSeverity : Nat := 4096

def warningSeverity : Nat := 256

def messageRecord? : Message → Option Record
  | .empty => none
  | .data _ none => none
  | .data severity (some text) =>
    let level : Level := if severity = errorSeverity then .error
      else if severity = warningSeverity then .warn else .debug
    some (.remark level .driver ("[Vulkan] " ++ text))

def receive (msg : Message) : Action Unit := do
  Action.say (messageRecord? msg).toList
  Action.called (.callback 0)

def receiveAll : List Message → Action Unit
  | [] => Effect.succeed ()
  | msg :: rest => do
    receive msg
    receiveAll rest

def createBare (application : String) (layers : List String) (headless : Bool) : Action Unit := do
  Effect.ofResult (checkName application)
  Effect.ofResult (within "Validation layer name contains a NUL byte" (checkNames layers))
  (Action.attempt .createInstance).within "Failed to create Vulkan instance"
  Action.called (.createInstance ⟨application, extensions layers headless, layers⟩)

def createMessenger : Action Handle := do
  let h ← (Action.create .createMessenger .createMessenger).within "Failed to create debug messenger"
  receiveAll (← Effect.get).hardware.messages
  return h

def nextId : Action Nat := fun m => (.ok m.nextInstance, { m with nextInstance := m.nextInstance + 1 })

def creationRemark (application : String) : Record :=
  .remark .info .driver ("Creating Vulkan instance: " ++ application)

def create (application : String) (s : DeviceSettings) : Action Instance := do
  Action.say [creationRemark application]
  let layers := s.enabledLayers
  createBare application layers s.headless
  let messenger ← if layers.isEmpty then Effect.succeed none
    else (do
      let h ← createMessenger.orElseDo (Action.called .destroyInstance)
      return some h)
  return ⟨← nextId, messenger⟩

def destroy (i : Instance) : Action Unit := do
  match i.messenger with
  | none => Effect.succeed ()
  | some h => Action.called (.destroyMessenger h)
  Action.called .destroyInstance

/-- The handles and properties of the devices. Their number is asked for first. -/
def physicalDevices : Action (List (Handle × PhysicalDevice)) := do
  (do Action.attempt .enumerateDevices
      Action.attempt .enumerateDevices).within "Failed to enumerate physical devices"
  let devices := (← Effect.get).hardware.devices
  return devices.mapIdx fun i d => (if d.null then 0 else i + 1, d)

end Instance
end SceneGpu.Gpu
