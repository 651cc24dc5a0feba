import SceneGpu.Bytecode.Word
import SceneGpu.Files.Tree
/-!
Failures: a cause, and what was being done when it struck, from the outside in. Where a computation that
changes a state fails, what happened to the state before stays.
-/
namespace SceneGpu

/-- A result code of the graphics driver; zero is success. -/
abbrev ResultCode := Int

def ResultCode.sentence? : ResultCode → Option String
  | 0 => some "Command completed successfully"
  | 1 => some "A fence or query has not yet completed"
  | 2 => some "A wait operation has not completed in the specified time"
  | 3 => some "An event is signaled"
  | 4 => some "An event is unsignaled"
  | 5 => some "A return array was too small for the result"
  | -1 => some "A host memory allocation has failed"
  | -2 => some "A device memory allocation has failed"
  | -3 => some "Initialization of an object has failed"
  | -4 => some ("The logical device has been lost. See <https:" ++ "//registry.khronos.org/vulkan/" ++
      "specs/1.3-extensions/html/vkspec.html#devsandqueues-lost-device>")
  | -5 => some "Mapping of a memory object has failed"
  | -6 => some "Layer specified does not exist"
  | -7 => some "Extension specified does not exist"
  | -8 => some "Requested feature is not available on this device"
  | -9 => some "Unable to find a Vulkan driver"
  | -10 => some "Too many objects of the type have already been created"
  | -11 => some "Requested format is not supported on this device"
  | -12 => some "A requested pool allocation has failed due to fragmentation of the pool's memory"
  | -13 => some "An unknown error has occurred, due to an implementation or application bug"
  | _ => none

def ResultCode.name? : ResultCode → Option String
  | -1000000000 => some "ERROR_SURFACE_LOST_KHR"
  | -1000000001 => some "ERROR_NATIVE_WINDOW_IN_USE_KHR"
  | 1000001003 => some "SUBOPTIMAL_KHR"
  | -1000001004 => some "ERROR_OUT_OF_DATE_KHR"
  | -1000003001 => some "ERROR_INCOMPATIBLE_DISPLAY_KHR"
  | -1000011001 => some "ERROR_VALIDATION_FAILED_EXT"
  | -1000012000 => some "ERROR_INVALID_SHADER_NV"
  | -1000069000 => some "ERROR_OUT_OF_POOL_MEMORY"
  | -1000072003 => some "ERROR_INVALID_EXTERNAL_HANDLE"
  | -1000158000 => some "ERROR_INVALID_DRM_FORMAT_MODIFIER_PLANE_LAYOUT_EXT"
  | -1000161000 => some "ERROR_FRAGMENTATION"
  | -1000174001 => some "ERROR_NOT_PERMITTED_KHR"
  | -1000255000 => some "ERROR_FULL_SCREEN_EXCLUSIVE_MODE_LOST_EXT"
  | -1000257000 => some "ERROR_INVALID_OPAQUE_CAPTURE_ADDRESS"
  | 1000268000 => some "THREAD_IDLE_KHR"
  | 1000268001 => some "THREAD_DONE_KHR"
  | 1000268002 => some "OPERATION_DEFERRED_KHR"
  | 1000268003 => some "OPERATION_NOT_DEFERRED_KHR"
  | 1000297000 => some "PIPELINE_COMPILE_REQUIRED"
  | _ => none

def ResultCode.message (code : ResultCode) : String :=
  (code.sentence?.or code.name?).getD (toString code)

inductive Cause where
  | bytecode (fault : Bytecode.Fault)
  | noDevices
  | deviceCreation (code : ResultCode)
  | commandPool (family : UInt32) (code : ResultCode)
  | shaderNotFound (path : Path)
  | workaroundAborted (description reason : String)
  | driver (code : ResultCode)
  | memory (text : String)
  | files (refusal : Files.Refusal)
  | config (text : String)
  | notText (place : Utf8.Break)
  | nulInText (position : Nat)
  | plain (text : String)
deriving DecidableEq, Repr

def Cause.message : Cause → String
  | .bytecode fault => fault.message
  | .noDevices => "no Vulkan-compatible devices found"
  | .deviceCreation code => "failed to create logical device: " ++ code.message
  | .commandPool family code =>
    s!"failed to create command pool for queue family {family}: " ++ code.message
  | .shaderNotFound path => "shader resource not found: " ++ path.display
  | .workaroundAborted description reason =>
    "device workaround '" ++ description ++ "' aborted device setup: " ++ reason
  | .driver code => code.message
  | .memory text => text
  | .files refusal => refusal.message
  | .config text => text
  | .notText ⟨offset, some length⟩ =>
    s!"invalid utf-8 sequence of {length} bytes from index {offset}"
  | .notText ⟨offset, none⟩ => s!"incomplete utf-8 byte sequence from index {offset}"
  | .nulInText position => s!"nul byte found in provided data at position: {position}"
  | .plain text => text

structure Failure where
  contexts : List String
  cause : Cause
deriving DecidableEq, Repr

namespace Failure

def ofCause (c : Cause) : Failure := ⟨[], c⟩

def plain (text : String) : Failure := ofCause (.plain text)

def within (context : String) (f : Failure) : Failure := { f with contexts := context :: f.contexts }

def chain (f : Failure) : List String := f.contexts ++ [f.cause.message]

def message (f : Failure) : String := ": ".intercalate f.chain

end Failure

def within {α : Type} (context : String) (r : Except Failure α) : Except Failure α :=
  r.mapError (Failure.within context)

def Effect (σ α : Type) : Type := σ → Except Failure α × σ

namespace Effect

variable {σ α β : Type}

def succeed (a : α) : Effect σ α := fun s => (.ok a, s)

def fail (f : Failure) : Effect σ α := fun s => (.error f, s)

def andThen (x : Effect σ α) (f : α → Effect σ β) : Effect σ β := fun s =>
  match x s with
  | (.ok a, t) => f a t
  | (.error e, t) => (.error e, t)

instance : Monad (Effect σ) where
  pure := succeed
  bind := andThen

def get : Effect σ σ := fun s => (.ok s, s)

def change (f : σ → σ) : Effect σ Unit := fun s => (.ok (), f s)

def ofResult (r : Except Failure α) : Effect σ α := fun s => (r, s)

def mapFailure (f : Failure → Failure) (x : Effect σ α) : Effect σ α := fun s =>
  ((x s).1.mapError f, (x s).2)

def within (context : String) (x : Effect σ α) : Effect σ α := x.mapFailure (Failure.within context)

def orElseDo (x : Effect σ α) (cleanUp : Effect σ Unit) : Effect σ α := fun s =>
  match x s with
  | (.ok a, t) => (.ok a, t)
  | (.error e, t) => (.error e, (cleanUp t).2)

def ensuring (x : Effect σ α) (cleanUp : Effect σ Unit) : Effect σ α := fun s =>
  ((x s).1, (cleanUp (x s).2).2)

def outcome (x : Effect σ α) : Effect σ (Except Failure α) := fun s => (.ok (x s).1, (x s).2)

end Effect
end SceneGpu
