import SceneGpu.Bytecode.Word
/-!
The declarations a module's instructions make: names, decorations, types, constants, variables and
the accesses to them. Each instruction is a header word, whose upper half counts the instruction's
words and whose lower half is the opcode, and its operands. Opcodes that declare nothing of
interest are passed over.
-/
namespace SceneGpu.Bytecode

abbrev Table (κ ν : Type) := κ → Option ν

def Table.empty {κ ν : Type} : Table κ ν := fun _ => none

def Table.set {κ ν : Type} [DecidableEq κ] (t : Table κ ν) (k : κ) (v : ν) : Table κ ν :=
  fun x => if x = k then some v else t x

inductive TypeDef where
  | bool
  | int (width : UInt32)
  | float (width : UInt32)
  | vector (component count : UInt32)
  | matrix (column columns : UInt32)
  | image
  | sampler
  | sampledImage
  | array (element length : UInt32)
  | runtimeArray
  | struct (members : List UInt32)
  | pointer (pointee : UInt32)
deriving DecidableEq, Repr

structure Decorations where
  block : Bool := false
  builtIn : Bool := false
  rowMajor : Bool := false
  set : Option UInt32 := none
  binding : Option UInt32 := none
  arrayStride : Option UInt32 := none
  matrixStride : Option UInt32 := none
  offset : Option UInt32 := none
deriving DecidableEq, Repr

structure Variable where
  id : UInt32
  pointerType : UInt32
  storage : UInt32
deriving DecidableEq, Repr

inductive Access where
  | members (indices : List UInt32)
  | whole
deriving DecidableEq, Repr

def Access.touch (member : UInt32) : Option Access → Access
  | none => .members [member]
  | some .whole => .whole
  | some (.members ms) => .members (if member ∈ ms then ms else ms ++ [member])

structure Declarations where
  names : Table UInt32 String := Table.empty
  memberNames : Table (UInt32 × UInt32) String := Table.empty
  decorations : Table UInt32 Decorations := Table.empty
  memberDecorations : Table (UInt32 × UInt32) Decorations := Table.empty
  types : Table UInt32 TypeDef := Table.empty
  constants : Table UInt32 UInt32 := Table.empty
  globals : List Variable := []
  access : Table UInt32 Access := Table.empty

def Declarations.isVariable (m : Declarations) (id : UInt32) : Bool :=
  m.globals.any fun v => v.id = id

def Decorations.apply (d : Decorations) (decoration : UInt32) (literals : List UInt32) :
    Decorations :=
  let first := literals.head?
  match decoration.toNat with
  | 2 => { d with block := true }
  | 4 => { d with rowMajor := true }
  | 6 => { d with arrayStride := first }
  | 7 => { d with matrixStride := first }
  | 11 => { d with builtIn := true }
  | 33 => { d with binding := first }
  | 34 => { d with set := first }
  | 35 => { d with offset := first }
  | _ => d

structure Instruction where
  opcode : UInt32
  operands : List UInt32
deriving DecidableEq, Repr

def Instruction.encode (i : Instruction) : List UInt32 :=
  (UInt32.ofNat (i.operands.length + 1) <<< 16 ||| i.opcode) :: i.operands

/-- The fewest operands an opcode needs; `none` for the opcodes that are passed over. -/
def minOperands (opcode : UInt32) : Option Nat :=
  match opcode.toNat with
  | 5 => some 1
  | 6 => some 2
  | 20 => some 1
  | 21 => some 2
  | 22 => some 2
  | 23 => some 3
  | 24 => some 3
  | 25 => some 1
  | 26 => some 1
  | 27 => some 2
  | 28 => some 3
  | 29 => some 2
  | 30 => some 1
  | 32 => some 3
  | 43 => some 3
  | 59 => some 3
  | 61 => some 3
  | 63 => some 2
  | 65 => some 3
  | 66 => some 3
  | 71 => some 2
  | 72 => some 3
  | _ => none

namespace Declarations

def setType (m : Declarations) (id : UInt32) (t : TypeDef) : Declarations :=
  { m with types := m.types.set id t }

def readWhole (m : Declarations) (id : UInt32) : Declarations :=
  if m.isVariable id then { m with access := m.access.set id .whole } else m

/-- A chain's first index selects a member if it is a constant known so far; any other chain may
reach all of the variable. -/
def readChain (m : Declarations) (base : UInt32) (indices : List UInt32) : Declarations :=
  if m.isVariable base then
    let access := match indices.head?.bind m.constants with
      | some member => Access.touch member (m.access base)
      | none => .whole
    { m with access := m.access.set base access }
  else m

/-- What one instruction adds. Array lengths are constants declared before the array. -/
def add (m : Declarations) (i : Instruction) : Declarations :=
  match i.opcode.toNat, i.operands with
  | 5, id :: text => { m with names := m.names.set id (literalText text) }
  | 6, type :: member :: text =>
    { m with memberNames := m.memberNames.set (type, member) (literalText text) }
  | 71, id :: decoration :: literals =>
    let d := ((m.decorations id).getD {}).apply decoration literals
    { m with decorations := m.decorations.set id d }
  | 72, type :: member :: decoration :: literals =>
    let d := ((m.memberDecorations (type, member)).getD {}).apply decoration literals
    { m with memberDecorations := m.memberDecorations.set (type, member) d }
  | 20, id :: _ => m.setType id .bool
  | 21, id :: width :: _ => m.setType id (.int width)
  | 22, id :: width :: _ => m.setType id (.float width)
  | 23, id :: component :: count :: _ => m.setType id (.vector component count)
  | 24, id :: column :: columns :: _ => m.setType id (.matrix column columns)
  | 25, id :: _ => m.setType id .image
  | 26, id :: _ => m.setType id .sampler
  | 27, id :: _ :: _ => m.setType id .sampledImage
  | 28, id :: element :: length :: _ =>
    m.setType id (.array element ((m.constants length).getD 0))
  | 29, id :: _ :: _ => m.setType id .runtimeArray
  | 30, id :: members => m.setType id (.struct members)
  | 32, id :: _ :: pointee :: _ => m.setType id (.pointer pointee)
  | 43, _ :: id :: value :: _ => { m with constants := m.constants.set id value }
  | 59, type :: id :: storage :: _ =>
    { m with globals := m.globals ++ [⟨id, type, storage⟩] }
  | 61, _ :: _ :: source :: _ => m.readWhole source
  | 63, _ :: source :: _ => m.readWhole source
  | 65, _ :: _ :: base :: indices => m.readChain base indices
  | 66, _ :: _ :: base :: indices => m.readChain base indices
  | _, _ => m

end Declarations

def checkOperands (offset : Nat) (i : Instruction) : Except Fault Unit :=
  match minOperands i.opcode with
  | some least =>
    if i.operands.length < least then .error (.missingOperands offset i.opcode) else .ok ()
  | none => .ok ()

def addInstructions (offset : Nat) (m : Declarations) :
    List UInt32 → Except Fault Declarations
  | [] => .ok m
  | header :: rest =>
    let count := (header >>> 16).toNat
    if count = 0 ∨ rest.length + 1 < count then .error (.badInstruction offset count)
    else
      let i : Instruction := ⟨header &&& 0xffff, rest.take (count - 1)⟩
      match checkOperands offset i with
      | .error e => .error e
      | .ok () => addInstructions (offset + count) (m.add i) (rest.drop (count - 1))
termination_by words => words.length
decreasing_by exact Nat.lt_succ_of_le (List.drop_sublist _ _).length_le

def headerWords : Nat := 5

def parse (words : List UInt32) : Except Fault Declarations :=
  if words.length < headerWords then .error (.truncated words.length)
  else
    let first := words.headD 0
    if first ≠ magic then .error (.badMagic first)
    else addInstructions headerWords {} (words.drop headerWords)

end SceneGpu.Bytecode
