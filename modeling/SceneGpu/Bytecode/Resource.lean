import SceneGpu.Bytecode.Size
/-!
The resources a stage's bytecode declares: uniform buffers with the member ranges the stage reads,
sampled images, and stage inputs.
-/
namespace SceneGpu.Bytecode

structure ActiveRange where
  index : UInt32
  name : String
  offset : UInt32
  range : UInt32
deriving DecidableEq, Repr

structure UniformBuffer where
  name : String
  set : UInt32
  binding : UInt32
  /-- In order of first reference. -/
  active : List ActiveRange
deriving DecidableEq, Repr

structure SampledImage where
  name : String
  set : UInt32
  binding : UInt32
deriving DecidableEq, Repr

structure Resources where
  uniformBuffers : List UniformBuffer := []
  sampledImages : List SampledImage := []
  stageInputs : List String := []
deriving DecidableEq, Repr

inductive Resource where
  | uniformBuffer (b : UniformBuffer)
  | sampledImage (i : SampledImage)
  | stageInput (name : String)
deriving DecidableEq, Repr

namespace Declarations

def pointee? (m : Declarations) (pointerType : UInt32) : Option UInt32 :=
  match m.types pointerType with
  | some (.pointer pointee) => some pointee
  | _ => none

def name? (m : Declarations) (id : UInt32) : Option String :=
  (m.names id).filter (· ≠ "")

def activeRange? (m : Declarations) (block : UInt32) (members : List UInt32) (index : UInt32) :
    Except Fault (Option ActiveRange) :=
  match members[index.toNat]? with
  | none => .ok none
  | some type =>
    match m.declaredSize (some (block, index)) type with
    | .error e => .error e
    | .ok range => .ok (some {
        index
        name := (m.memberNames (block, index)).getD ""
        offset := ((m.memberDecorations (block, index)).bind (·.offset)).getD 0
        range })

/-- Indices past the last member select nothing. -/
def activeRanges (m : Declarations) (block : UInt32) (members : List UInt32) :
    List UInt32 → Except Fault (List ActiveRange)
  | [] => .ok []
  | index :: rest =>
    match m.activeRange? block members index with
    | .error e => .error e
    | .ok r =>
      match m.activeRanges block members rest with
      | .error e => .error e
      | .ok rs => .ok (r.toList ++ rs)

def memberIndices (members : List UInt32) : List UInt32 :=
  (List.range members.length).map UInt32.ofNat

def activeIndices (m : Declarations) (v : Variable) (members : List UInt32) : List UInt32 :=
  match m.access v.id with
  | some .whole => memberIndices members
  | some (.members indices) => indices
  | none => []

def isBlock (m : Declarations) (type : UInt32) : Bool :=
  ((m.decorations type).map (·.block)).getD false

def setOf (m : Declarations) (id : UInt32) : UInt32 :=
  ((m.decorations id).bind (·.set)).getD 0

def bindingOf (m : Declarations) (id : UInt32) : UInt32 :=
  ((m.decorations id).bind (·.binding)).getD 0

/-- A variable is a uniform buffer if it points to a block, perhaps through arrays. -/
def uniformBuffer? (m : Declarations) (v : Variable) : Except Fault (Option UniformBuffer) :=
  match m.pointee? v.pointerType with
  | none => .ok none
  | some pointee =>
    match m.baseType pointee with
    | .error e => .error e
    | .ok block =>
      match m.types block with
      | some (.struct members) =>
        if m.isBlock block then
          match m.activeRanges block members (m.activeIndices v members) with
          | .error e => .error e
          | .ok active => .ok (some {
              name := ((m.name? block).or (m.name? v.id)).getD ""
              set := m.setOf v.id
              binding := m.bindingOf v.id
              active })
        else .ok none
      | _ => .ok none

def sampledImage? (m : Declarations) (v : Variable) : Except Fault (Option SampledImage) :=
  match m.pointee? v.pointerType with
  | none => .ok none
  | some pointee =>
    match m.baseType pointee with
    | .error e => .error e
    | .ok base =>
      match m.types base with
      | some .sampledImage => .ok (some {
          name := (m.name? v.id).getD ""
          set := m.setOf v.id
          binding := m.bindingOf v.id })
      | _ => .ok none

/-- Built-in variables, and blocks with a built-in member, are supplied by the pipeline. -/
def isBuiltIn (m : Declarations) (v : Variable) : Except Fault Bool :=
  if ((m.decorations v.id).map (·.builtIn)).getD false then .ok true
  else
    match m.pointee? v.pointerType with
    | none => .ok false
    | some pointee =>
      match m.baseType pointee with
      | .error e => .error e
      | .ok block =>
        match m.types block with
        | some (.struct members) =>
          .ok ((memberIndices members).any fun i =>
            ((m.memberDecorations (block, i)).map (·.builtIn)).getD false)
        | _ => .ok false

def stageInput? (m : Declarations) (v : Variable) : Except Fault (Option String) :=
  match m.isBuiltIn v with
  | .error e => .error e
  | .ok true => .ok none
  | .ok false => .ok (m.name? v.id)

/-- What a variable contributes, by its storage class: constants of the pipeline layout (0) may be
sampled images, inputs (1) stage inputs, uniforms (2) uniform buffers. -/
def resource? (m : Declarations) (v : Variable) : Except Fault (Option Resource) :=
  match v.storage.toNat with
  | 0 => (m.sampledImage? v).map fun r => r.map .sampledImage
  | 1 => (m.stageInput? v).map fun r => r.map .stageInput
  | 2 => (m.uniformBuffer? v).map fun r => r.map .uniformBuffer
  | _ => .ok none

def resourceList (m : Declarations) : List Variable → Except Fault (List Resource)
  | [] => .ok []
  | v :: rest =>
    match m.resource? v with
    | .error e => .error e
    | .ok r =>
      match m.resourceList rest with
      | .error e => .error e
      | .ok rs => .ok (r.toList ++ rs)

end Declarations

def Resources.ofList (rs : List Resource) : Resources where
  uniformBuffers := rs.filterMap fun | .uniformBuffer b => some b | _ => none
  sampledImages := rs.filterMap fun | .sampledImage i => some i | _ => none
  stageInputs := rs.filterMap fun | .stageInput n => some n | _ => none

def Declarations.resources (m : Declarations) : Except Fault Resources :=
  (m.resourceList m.globals).map Resources.ofList

def introspect (words : List UInt32) : Except Fault Resources :=
  match parse words with
  | .error e => .error e
  | .ok m => m.resources

end SceneGpu.Bytecode
