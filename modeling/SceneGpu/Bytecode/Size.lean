import SceneGpu.Bytecode.Declaration
/-!
Declared sizes of types as laid out in a buffer, in 32-bit arithmetic that reports overflow.
-/
namespace SceneGpu.Bytecode

def maxTypeDepth : Nat := 64

def checkedMul (a b : UInt32) : Option UInt32 :=
  if a.toNat * b.toNat < UInt32.size then some (a * b) else none

def checkedAdd (a b : UInt32) : Option UInt32 :=
  if a.toNat + b.toNat < UInt32.size then some (a + b) else none

def orOverflow (type : UInt32) : Option UInt32 → Except Fault UInt32
  | some n => .ok n
  | none => .error (.sizeOverflow type)

namespace Declarations

def scalarSize (m : Declarations) (type : UInt32) : UInt32 :=
  match m.types type with
  | some .bool => 4
  | some (.int width) => width / 8
  | some (.float width) => width / 8
  | _ => 0

def vectorShape (m : Declarations) (type : UInt32) : UInt32 × UInt32 :=
  match m.types type with
  | some (.vector component count) => (m.scalarSize component, count)
  | _ => (m.scalarSize type, 1)

/-- A matrix takes a stride per column, or per row when it is stored by rows; without a stride it
is packed. -/
def matrixSize (m : Declarations) (column columns : UInt32) (d : Option Decorations) :
    Option UInt32 :=
  let (scalar, rows) := m.vectorShape column
  match d.bind fun d => d.matrixStride.map fun s => (s, d.rowMajor) with
  | some (stride, true) => checkedMul stride rows
  | some (stride, false) => checkedMul stride columns
  | none => (checkedMul scalar rows).bind fun s => checkedMul s columns

/-- The size of a type with `levels` of nesting left. `member` is the struct member being sized;
its decorations carry a matrix's stride and order. -/
def sized (m : Declarations) (member : Option (UInt32 × UInt32)) (type : UInt32) :
    Nat → Except Fault UInt32
  | 0 => .error (.typeTooDeep type)
  | levels + 1 =>
    match m.types type with
    | none => .ok 0
    | some .bool => .ok (m.scalarSize type)
    | some (.int _) => .ok (m.scalarSize type)
    | some (.float _) => .ok (m.scalarSize type)
    | some (.vector component count) =>
      orOverflow type (checkedMul (m.scalarSize component) count)
    | some (.matrix column columns) =>
      orOverflow type (m.matrixSize column columns (member.bind m.memberDecorations))
    | some (.array element length) =>
      match (m.decorations type).bind (·.arrayStride) with
      | some stride => orOverflow type (checkedMul stride length)
      | none =>
        match m.sized member element levels with
        | .error e => .error e
        | .ok size => orOverflow type (checkedMul size length)
    | some (.struct members) =>
      match members.getLast? with
      | none => .ok 0
      | some lastType =>
        let last := UInt32.ofNat (members.length - 1)
        let offset := ((m.memberDecorations (type, last)).bind (·.offset)).getD 0
        match m.sized (some (type, last)) lastType levels with
        | .error e => .error e
        | .ok size => orOverflow type (checkedAdd offset size)
    | some .runtimeArray => .ok 0
    | some (.pointer _) => .ok 0
    | some .image => .ok 0
    | some .sampler => .ok 0
    | some .sampledImage => .ok 0

def declaredSize (m : Declarations) (member : Option (UInt32 × UInt32)) (type : UInt32) :
    Except Fault UInt32 :=
  m.sized member type (maxTypeDepth + 1)

def unwrapped (m : Declarations) (whole : UInt32) (type : UInt32) : Nat → Except Fault UInt32
  | 0 => .error (.typeTooDeep whole)
  | levels + 1 =>
    match m.types type with
    | some (.array element _) => m.unwrapped whole element levels
    | _ => .ok type

def baseType (m : Declarations) (type : UInt32) : Except Fault UInt32 :=
  m.unwrapped type type (maxTypeDepth + 1)

end Declarations
end SceneGpu.Bytecode
