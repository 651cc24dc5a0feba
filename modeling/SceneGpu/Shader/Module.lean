import SceneGpu.Report.Failure
/-!
A compiled and reflected shader stage with its descriptor specs: the uniform buffers of the stage with
their active members, and one summary entry for its input textures. Specs are kept under keys in the order
they were found; the first spec of a key stays. A bytecode file is named like its source with `.spv`
behind it.
-/
namespace SceneGpu

inductive Stage where
  | vertex
  | fragment
  | geometry
  | tessControl
  | tessEval
  | compute
deriving DecidableEq, Repr

namespace Stage

def all : List Stage := [.vertex, .fragment, .geometry, .tessControl, .tessEval, .compute]

def extension : Stage → String
  | .vertex => "vert"
  | .fragment => "frag"
  | .geometry => "geom"
  | .tessControl => "tesc"
  | .tessEval => "tese"
  | .compute => "comp"

def ofExtension? (extension : String) : Option Stage := all.find? (·.extension = extension)

def name : Stage → String
  | .vertex => "Vertex"
  | .fragment => "Fragment"
  | .geometry => "Geometry"
  | .tessControl => "TessControl"
  | .tessEval => "TessEval"
  | .compute => "Compute"

def flag : Stage → UInt32
  | .vertex => 1
  | .tessControl => 2
  | .tessEval => 4
  | .geometry => 8
  | .fragment => 16
  | .compute => 32

end Stage

structure Member where
  name : String
  index : UInt32
  offset : UInt32
  range : UInt32
deriving DecidableEq, Repr

def Member.stop (m : Member) : Nat := m.offset.toNat + m.range.toNat

inductive DescriptorKind where
  | uniformBuffer
  | inputTextures
deriving DecidableEq, Repr

structure Spec where
  name : String
  set : UInt32
  binding : UInt32
  kind : DescriptorKind
  members : List Member
deriving DecidableEq, Repr

namespace Spec

def member? (s : Spec) (name : String) : Option Member := s.members.find? (·.name = name)

def size (s : Spec) : Nat := (s.members.map Member.stop).foldl max 0

end Spec

def blockAlignment : Nat := 16

def alignedSize (size : Nat) : Nat :=
  (max size 1 + blockAlignment - 1) / blockAlignment * blockAlignment

def Spec.writeRange (s : Spec) (name : String) (length : Nat) : Except Failure (Nat × Nat) :=
  match s.member? name with
  | none => .error (.plain (s.name ++ " has no active member '" ++ name ++ "'"))
  | some m =>
    if m.range.toNat < length then
      .error (.plain (s.name ++ "." ++ name ++ s!" holds {m.range} bytes, got {length}"))
    else .ok (m.offset.toNat, m.offset.toNat + length)

structure Specs where
  entries : List (String × Spec)
deriving DecidableEq, Repr

namespace Specs

def empty : Specs := ⟨[]⟩

def get? (s : Specs) (key : String) : Option Spec := (s.entries.find? (·.1 = key)).map (·.2)

def contains (s : Specs) (key : String) : Bool := (s.get? key).isSome

/-- Adds a spec unless its key is taken, and tells whether it did. -/
def insertIfAbsent (s : Specs) (key : String) (spec : Spec) : Specs × Bool :=
  if s.contains key then (s, false) else (⟨s.entries ++ [(key, spec)]⟩, true)

def uniformBuffers (s : Specs) : List Spec :=
  (s.entries.map (·.2)).filter (·.kind = .uniformBuffer)

def size (s : Specs) : Nat := s.entries.length

def isEmpty (s : Specs) : Bool := s.entries.isEmpty

def ofList (entries : List (String × Spec)) : Specs :=
  entries.foldl (fun s e => (s.insertIfAbsent e.1 e.2).1) empty

end Specs

structure ShaderModule where
  stage : Stage
  /-- The file the bytecode came from, a source or a bytecode file. -/
  path : Path
  bytecode : List UInt32
  specs : Specs
  stageInputs : List String
deriving DecidableEq, Repr

/-- A module that failed to compile has no bytecode. -/
def ShaderModule.isUsable (m : ShaderModule) : Bool := !m.bytecode.isEmpty

def lowerByte (b : UInt8) : UInt8 := if 65 ≤ b && b ≤ 90 then b + 32 else b

def bytecodeSuffix : List UInt8 := Utf8.encodeText ".spv"

def stripSuffix? (name : List UInt8) : Option (List UInt8) :=
  let cut := name.length - bytecodeSuffix.length
  if bytecodeSuffix.length ≤ name.length && (name.drop cut).map lowerByte = bytecodeSuffix then
    some (name.take cut)
  else none

namespace Path

def source? (p : Path) : Option Path :=
  (p.fileName.filter fun name => (Utf8.decode? name).isSome).bind fun name =>
    (stripSuffix? name).map p.withFileName

def isBytecode (p : Path) : Bool :=
  p.extension.any fun e => (46 :: e).map lowerByte = bytecodeSuffix

def stageExtension (p : Path) : String :=
  (((p.source?).getD p).extension.bind Utf8.decodeText?).getD ""

def stage? (p : Path) : Option Stage := Stage.ofExtension? p.stageExtension

end Path
end SceneGpu
