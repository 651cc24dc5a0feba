import SceneGpu.Collection
import SceneGpu.Report.Journal
import SceneGpu.Shader.Module
/-!
Layouts of a pipeline: the attributes that a mesh provides, interleaved in one binding, and the
descriptor sets, merged from the specs of its stages, with the names and uniform buffers they bind.
-/
namespace SceneGpu

inductive VertexKind where
  | coordsNormalsTexcoords
  | coordsTexcoords
  | coordsNormals
  | coordsNone
deriving DecidableEq, Repr

namespace VertexKind

def name : VertexKind → String
  | .coordsNormalsTexcoords => "CoordsNormalsTexcoords"
  | .coordsTexcoords => "CoordsTexcoords"
  | .coordsNormals => "CoordsNormals"
  | .coordsNone => "CoordsNone"

def all : List VertexKind :=
  [.coordsNormalsTexcoords, .coordsTexcoords, .coordsNormals, .coordsNone]

def ofName? (name : String) : Option VertexKind := all.find? (·.name = name)

def components : VertexKind → List Nat
  | .coordsNormalsTexcoords => [3, 3, 2]
  | .coordsTexcoords => [3, 2]
  | .coordsNormals => [3, 3]
  | .coordsNone => []

end VertexKind

structure VertexAttribute where
  location : Nat
  binding : Nat
  format : Nat
  offset : Nat
deriving DecidableEq, Repr

structure VertexBinding where
  binding : Nat
  stride : Nat
  inputRate : Nat
deriving DecidableEq, Repr

structure VertexDescription where
  bindings : List VertexBinding
  attributes : List VertexAttribute
deriving DecidableEq, Repr

def floatSize : Nat := 4

def floatFormat : Nat → Nat
  | 1 => 100
  | 2 => 103
  | 3 => 106
  | _ => 109

def attributesFrom (location offset : Nat) : List Nat → List VertexAttribute
  | [] => []
  | n :: rest =>
    ⟨location, 0, floatFormat n, offset⟩ :: attributesFrom (location + 1) (offset + n * floatSize) rest

def VertexDescription.ofKind (k : VertexKind) : VertexDescription :=
  match k.components with
  | [] => ⟨[], []⟩
  | n :: ns => ⟨[⟨0, (n :: ns).foldl (· + ·) 0 * floatSize, 0⟩], attributesFrom 0 0 (n :: ns)⟩

def VertexDescription.stride (d : VertexDescription) : Nat := (d.bindings.head?.map (·.stride)).getD 0

inductive DescriptorType where
  | combinedImageSampler
  | uniformBuffer
deriving DecidableEq, Repr

namespace DescriptorType

def code : DescriptorType → Nat
  | .combinedImageSampler => 1
  | .uniformBuffer => 6

def name : DescriptorType → String
  | .combinedImageSampler => "COMBINED_IMAGE_SAMPLER"
  | .uniformBuffer => "UNIFORM_BUFFER"

end DescriptorType

def DescriptorKind.type : DescriptorKind → DescriptorType
  | .uniformBuffer => .uniformBuffer
  | .inputTextures => .combinedImageSampler

structure LayoutBinding where
  binding : UInt32
  type : Nat
  count : UInt32
  stages : UInt32
deriving DecidableEq, Repr

structure Declared where
  type : DescriptorType
  stages : UInt32
deriving DecidableEq, Repr

abbrev SetPlaces := SortedMap UInt32 Declared

abbrev Places := SortedMap UInt32 SetPlaces

def conflict (m : ShaderModule) (key : String) (s : Spec) (declared : DescriptorType) : Record :=
  .remark .warn .layout (key ++ " in " ++ m.path.display ++
    s!" wants set {s.set} binding {s.binding} as " ++ s.kind.type.name ++
    ", already declared as " ++ declared.name)

/-- The first spec at a binding fixes its type; later ones of that type add their stage. -/
def mergeSpec (m : ShaderModule) (key : String) (s : Spec) (found : SetPlaces) :
    SetPlaces × List Record :=
  match found.get? s.binding with
  | none => (found.insert s.binding ⟨s.kind.type, m.stage.flag⟩, [])
  | some place =>
    if place.type = s.kind.type then
      (found.insert s.binding { place with stages := place.stages ||| m.stage.flag }, [])
    else (found, [conflict m key s place.type])

structure Merged where
  places : Places
  conflicts : List Record
deriving DecidableEq, Repr

def Merged.add (acc : Merged) (e : ShaderModule × String × Spec) : Merged :=
  let set := (acc.places.get? e.2.2.set).getD SortedMap.empty
  let merged := mergeSpec e.1 e.2.1 e.2.2 set
  ⟨acc.places.insert e.2.2.set merged.1, acc.conflicts ++ merged.2⟩

def specsOf (modules : List ShaderModule) : List (ShaderModule × String × Spec) :=
  modules.flatMap fun m => m.specs.entries.map fun e => (m, e)

def mergeSpecs (modules : List ShaderModule) : Merged :=
  (specsOf modules).foldl Merged.add ⟨SortedMap.empty, []⟩

def Declared.toBinding (binding : UInt32) (p : Declared) : LayoutBinding :=
  ⟨binding, p.type.code, 1, p.stages⟩

def layoutBindings (modules : List ShaderModule) : List (UInt32 × List LayoutBinding) :=
  (mergeSpecs modules).places.entries.map fun set =>
    (set.1, set.2.entries.map fun e => e.2.toBinding e.1)

def objectTextureSlots : UInt32 := 6

def objectTexturesBinding (binding stages : UInt32) : LayoutBinding :=
  ⟨binding, DescriptorType.combinedImageSampler.code, objectTextureSlots, stages⟩

def setName (e : ShaderModule × String × Spec) : String :=
  match e.2.2.kind with
  | .uniformBuffer => e.2.2.name
  | .inputTextures => e.2.1

def requiredSets (modules : List ShaderModule) : List String :=
  (sortOn (·.2.2.set.toNat) (firstsOn setName (specsOf modules))).map setName

def uniformSpecs (modules : List ShaderModule) : List Spec :=
  firstsOn (·.name) (modules.flatMap (·.specs.uniformBuffers))

end SceneGpu
