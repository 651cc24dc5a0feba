import SceneGpu.Gpu.Buffer
import SceneGpu.Gpu.Device
/-!
The state of one drawable object: how it is drawn, its buffers, textures and pipeline, and the
descriptor set that binds its textures. Texture and buffer maps are values that are replaced as a
whole, so a reader keeps the map it has read. Sets come from a backend, such as a pool that only keeps
books of them.
-/
namespace SceneGpu

inductive DrawMode where
  | triangles
  | triangleStrip
  | lines
  | lineStrip
  | points
deriving DecidableEq, Repr

namespace DrawMode

def all : List DrawMode := [.triangles, .triangleStrip, .lines, .lineStrip, .points]

def name : DrawMode → String
  | .triangles => "Triangles"
  | .triangleStrip => "TriangleStrip"
  | .lines => "Lines"
  | .lineStrip => "LineStrip"
  | .points => "Points"

def ofName? (name : String) : Option DrawMode := all.find? (·.name = name)

def topology : DrawMode → Nat
  | .points => 0
  | .lines => 1
  | .lineStrip => 2
  | .triangles => 3
  | .triangleStrip => 4

end DrawMode

structure DrawParameters where
  mode : DrawMode := .triangles
  indexed : Bool := false
  indexOffset : UInt32 := 0
  indexCount : UInt32 := 0
  vertexCount : UInt32 := 0
  instanceCount : UInt32 := 1
deriving DecidableEq, Repr

open Gpu

abbrev BufferMap := SortedMap String BufferRef

structure BoundSet where
  set : Handle
  pool : Handle
deriving DecidableEq, Repr

structure ObjectState where
  initialized : Bool := false
  draw : DrawParameters := {}
  requiredSets : List String := []
  defaultTextures : SortedMap String Unit := .empty
  vertexKind : VertexKind := .coordsNormalsTexcoords
  pipeline : Option PipelineHandle := none
  textures : TextureMap := .empty
  vertexBuffers : BufferMap := .empty
  uniformBuffers : BufferMap := .empty
  textureSet : Option BoundSet := none
deriving DecidableEq, Repr

structure Detached where
  pipeline : Option PipelineHandle
  vertexBuffers : List BufferRef
  uniformBuffers : List BufferRef
deriving DecidableEq, Repr

/-- What allocates, frees and writes descriptor sets. All writes to a set come in one update. -/
structure SetBackend (σ : Type) where
  allocate : (pool layout : Handle) → Effect σ Handle
  free : (pool set : Handle) → Effect σ Unit
  write : Handle → List ImageWrite → σ → σ

namespace ObjectState

variable {σ : Type}

def setTexture (o : ObjectState) (type : String) (t : Texture) : ObjectState :=
  { o with textures := o.textures.insert type t }

def markDefaultTexture (o : ObjectState) (type : String) : ObjectState :=
  { o with defaultTextures := o.defaultTextures.insert type () }

def usesDefaultTexture (o : ObjectState) (type : String) : Bool := o.defaultTextures.contains type

def configureFor (o : ObjectState) (modules : List ShaderModule) : ObjectState :=
  { o with requiredSets := SceneGpu.requiredSets modules }

def vertexDescription (o : ObjectState) : VertexDescription := .ofKind o.vertexKind

def setPipeline (o : ObjectState) (p : PipelineHandle) : ObjectState × Option PipelineHandle :=
  ({ o with pipeline := some p }, o.pipeline)

def setVertexBuffer (o : ObjectState) (name : String) (b : BufferRef) :
    ObjectState × Option BufferRef :=
  ({ o with vertexBuffers := o.vertexBuffers.insert name b }, o.vertexBuffers.get? name)

structure Step (σ α : Type) where
  result : Except Failure α
  object : ObjectState
  backend : σ
  records : List Record

/-- Gives the texture set back to its pool. It is forgotten even if the pool refuses it. -/
def release (o : ObjectState) (b : SetBackend σ) (s : σ) : Step σ Unit :=
  match o.textureSet with
  | none => ⟨.ok (), o, s, []⟩
  | some bound =>
    let freed := b.free bound.pool bound.set s
    ⟨freed.1, { o with textureSet := none }, freed.2, []⟩

def bindTextures (o : ObjectState) (b : SetBackend σ) (layout pool : Handle) (binding : UInt32)
    (s : σ) : Step σ Handle :=
  let released := o.release b s
  match released.result with
  | .error e => ⟨.error e, released.object, released.backend, []⟩
  | .ok () =>
    let allocated := b.allocate pool layout released.backend
    match allocated.1 with
    | .error e => ⟨.error e, released.object, allocated.2, []⟩
    | .ok set =>
      let textures := released.object.textures
      ⟨.ok set, { released.object with textureSet := some ⟨set, pool⟩ },
        b.write set (imageWrites binding textures) allocated.2, slotWarnings textures⟩

def detach (o : ObjectState) (b : SetBackend σ) (s : σ) : Step σ Detached :=
  let released := o.release b s
  match released.result with
  | .error e => ⟨.error e, released.object, released.backend, []⟩
  | .ok () =>
    let before := released.object
    ⟨.ok ⟨before.pipeline, before.vertexBuffers.values, before.uniformBuffers.values⟩,
      { before with initialized := false, pipeline := none, vertexBuffers := .empty
                    uniformBuffers := .empty },
      released.backend, []⟩

def addUniformBuffers (d : Device) : List Spec → BufferMap → Action BufferMap
  | [], buffers => Effect.succeed buffers
  | s :: rest, buffers =>
    if buffers.contains s.name then addUniformBuffers d rest buffers
    else do
      let b ← Buffer.fromSpec d s
      addUniformBuffers d rest (buffers.insert s.name b)

def createUniformBuffers (o : ObjectState) (d : Device) (modules : List ShaderModule) :
    Action (ObjectState × Nat) := do
  let specs := uniformSpecs modules
  let buffers ← addUniformBuffers d specs o.uniformBuffers
  let created := (specs.filter fun s => !o.uniformBuffers.contains s.name).length
  return ({ o with uniformBuffers := buffers }, created)

end ObjectState

def deviceBackend : SetBackend Machine where
  allocate := fun pool layout =>
    (Action.create .allocateSets fun h => .allocateSets pool [layout] [h]).within
      "Failed to allocate descriptor set"
  free := fun pool set =>
    (do
      Action.attempt .freeSets
      Action.called (.freeSets pool [set])).within "Failed to free descriptor set"
  write := fun set writes m => m.record (.updateSets (writes.map fun w => (set, w)))

def Detached.destroy (r : Detached) : Action Unit := do
  match r.pipeline with
  | none => Effect.succeed ()
  | some p => p.destroy
  Buffer.destroyAll r.vertexBuffers
  Buffer.destroyAll r.uniformBuffers

inductive PoolEvent where
  | allocated (pool layout set : Handle)
  | freed (pool set : Handle)
  | written (set : Handle) (writes : List ImageWrite)
deriving DecidableEq, Repr

structure SimulatedPool where
  last : Handle
  live : List Handle
  events : List PoolEvent
  refusesAllocation : Bool
  refusesFree : Bool
deriving DecidableEq, Repr

namespace SimulatedPool

def empty : SimulatedPool := ⟨0, [], [], false, false⟩

def note (p : SimulatedPool) (e : PoolEvent) : SimulatedPool := { p with events := p.events ++ [e] }

def allocate (pool layout : Handle) : Effect SimulatedPool Handle := fun p =>
  if p.refusesAllocation then (.error (.plain "out of pool memory"), p)
  else
    let set := p.last + 1
    (.ok set, { p with last := set, live := p.live ++ [set] }.note (.allocated pool layout set))

def free (pool set : Handle) : Effect SimulatedPool Unit := fun p =>
  if p.refusesFree then (.error (.plain "free refused"), p)
  else (.ok (), { p with live := p.live.filter (· ≠ set) }.note (.freed pool set))

def backend : SetBackend SimulatedPool := ⟨allocate, free, fun set writes p => p.note (.written set writes)⟩

end SimulatedPool
end SceneGpu
