import SceneGpu.Bytecode.Resource
import SceneGpu.Proofs.Bytecode.NestingLimit
/-!
Instructions that are passed over. One that is put between two whole instructions leaves what is
reported of the bytecode as it was: the same resources, or the same fault, told of the place where the
words at fault now stand.
-/
namespace SceneGpu.Bytecode

/-- Words up to an instruction boundary: a header, and behind it whole instructions, which need not
have the operands that their opcodes ask for. -/
structure Bounded (front : List UInt32) : Prop where
  header : headerWords ≤ front.length
  whole : ∃ is, Splits (front.drop headerWords) is

def shift (boundary n offset : Nat) : Nat := if boundary ≤ offset then offset + n else offset

theorem shift_behind {boundary offset : Nat} (behind : boundary ≤ offset) (n : Nat) :
    shift boundary n offset = offset + n := if_pos behind

theorem shift_before {boundary offset : Nat} (before : offset < boundary) (n : Nat) :
    shift boundary n offset = offset := if_neg (Nat.not_le.mpr before)

namespace Fault

def moved (boundary n : Nat) : Fault → Fault
  | badInstruction offset count => badInstruction (shift boundary n offset) count
  | missingOperands offset opcode => missingOperands (shift boundary n offset) opcode
  | unalignedLength bytes => unalignedLength bytes
  | truncated words => truncated words
  | badMagic word => badMagic word
  | sizeOverflow type => sizeOverflow type
  | typeTooDeep type => typeTooDeep type

inductive OfType : Fault → Prop
  | overflow (type : UInt32) : OfType (sizeOverflow type)
  | tooDeep (type : UInt32) : OfType (typeTooDeep type)

theorem OfType.moved {e : Fault} (ofType : e.OfType) (boundary n : Nat) : e.moved boundary n = e := by
  cases ofType <;> rfl

end Fault

section Parsing

variable {i : Instruction}

theorem Instruction.complete_foreign (foreign : minOperands i.opcode = none) : i.Complete := by
  intro least needed
  rw [foreign] at needed
  cases needed

theorem addInstructions_foreign (encodable : i.Encodable) (foreign : minOperands i.opcode = none)
    (offset : Nat) (m : Declarations) (back : List UInt32) :
    addInstructions offset m (i.encode ++ back) =
      addInstructions (offset + i.encode.length) m back := by
  have alone : Splits i.encode [i] := by
    have split : Splits ([i].flatMap Instruction.encode) [i] :=
      splits_encode (by simpa using encodable)
    rwa [List.flatMap_cons, List.flatMap_nil, List.append_nil] at split
  have complete : ∀ j ∈ [i], j.Complete := by
    intro j mem
    rw [List.mem_singleton.mp mem]
    exact Instruction.complete_foreign foreign
  rw [addInstructions_splits alone complete, List.foldl_cons, List.foldl_nil,
    Declarations.add_foreign foreign]

theorem Offends.moved {boundary offset n : Nat} {words : List UInt32} {e : Fault}
    (offends : Offends offset words e) (behind : boundary ≤ offset) :
    Offends (offset + n) words (e.moved boundary n) := by
  cases offends with
  | unfit counts =>
    rw [Fault.moved, shift_behind behind]
    exact .unfit counts
  | lacking counts lacks =>
    rw [Fault.moved, shift_behind behind]
    exact .lacking counts lacks

theorem addInstructions_moved {boundary offset : Nat} (behind : boundary ≤ offset) (n : Nat)
    (m : Declarations) (words : List UInt32) :
    addInstructions (offset + n) m words =
      (addInstructions offset m words).mapError (Fault.moved boundary n) := by
  rcases addInstructions_cases offset m words with ⟨is, splits, complete, done⟩ | ⟨e, first, failed⟩
  · rw [done]
    exact addInstructions_ok_iff.mpr ⟨is, splits, complete, rfl⟩
  · rw [failed]
    obtain ⟨front, is, rest, rfl, splits, complete, offends⟩ := first
    refine addInstructions_error_iff.mpr ⟨front, is, rest, rfl, splits, complete, ?_⟩
    have later := offends.moved (n := n) (Nat.le_add_right_of_le behind)
    rwa [Nat.add_right_comm] at later

/-- Both runs keep step up to the boundary, where one of them takes a turn more. -/
theorem addInstructions_insert {front : List UInt32} {is : List Instruction} (split : Splits front is)
    (encodable : i.Encodable) (foreign : minOperands i.opcode = none) (offset : Nat)
    (m : Declarations) (back : List UInt32) :
    addInstructions offset m (front ++ (i.encode ++ back)) =
      (addInstructions offset m (front ++ back)).mapError
        (Fault.moved (offset + front.length) i.encode.length) := by
  induction split generalizing offset m with
  | nil =>
    rw [List.nil_append, List.nil_append, addInstructions_foreign encodable foreign]
    exact addInstructions_moved (Nat.le_refl _) _ m back
  | @cons header operands rest is counts _ ih =>
    simp only [List.cons_append, List.append_assoc]
    rw [addInstructions_cons counts, addInstructions_cons counts]
    -- An instruction that lacks operands ends both runs ahead of the boundary.
    by_cases complete : Instruction.Complete ⟨header &&& 0xffff, operands⟩
    · have place : offset + (header :: (operands ++ rest)).length =
          offset + (operands.length + 1) + rest.length := by
        rw [List.length_cons, List.length_append]
        omega
      rw [checkOperands_complete _ complete, place]
      exact ih _ _
    · have before : offset < offset + (header :: (operands ++ rest)).length := by
        rw [List.length_cons]
        omega
      rw [checkOperands_lacking _ complete]
      simp only [Except.mapError, Fault.moved, shift_before before]

theorem parse_insert {front : List UInt32} (bounded : Bounded front) (encodable : i.Encodable)
    (foreign : minOperands i.opcode = none) (back : List UInt32) :
    parse (front ++ (i.encode ++ back)) =
      (parse (front ++ back)).mapError (Fault.moved front.length i.encode.length) := by
  obtain ⟨is, split⟩ := bounded.whole
  have long : ∀ rest, headerWords ≤ (front ++ rest).length := by
    intro rest
    exact (List.length_append ▸ Nat.le_add_right_of_le bounded.header)
  have first : ∀ rest, (front ++ rest).head? = front.head? := by
    intro rest
    cases front with
    | nil => exact absurd bounded.header (by decide)
    | cons word others => rfl
  have body : ∀ rest, (front ++ rest).drop headerWords = front.drop headerWords ++ rest :=
    fun rest => List.drop_append_of_le_length bounded.header
  have place : headerWords + (front.drop headerWords).length = front.length := by
    rw [List.length_drop]
    exact Nat.add_sub_cancel' bounded.header
  -- The header lies in front of the boundary, so both runs find the same one.
  rcases header_cases (front ++ back) with short | ⟨word, _, starts, other⟩ | headed
  · exact absurd short (Nat.not_lt.mpr (long back))
  · have same := starts
    rw [first back, ← first (i.encode ++ back)] at same
    rw [parse_unmagic (long _) starts other, parse_unmagic (long _) same other]
    rfl
  · have same := headed.magic
    rw [first back, ← first (i.encode ++ back)] at same
    rw [parse_headed headed, parse_headed ⟨long _, same⟩, body, body,
      addInstructions_insert split encodable foreign, place]

end Parsing

def BlamesTypes {α : Type} (r : Except Fault α) : Prop := ∀ e, r = .error e → e.OfType

namespace BlamesTypes

variable {α β : Type}

theorem ok (a : α) : BlamesTypes (.ok a) := by
  intro e impossible
  cases impossible

theorem error {e : Fault} (ofType : e.OfType) : BlamesTypes (.error e : Except Fault α) := by
  intro other same
  cases same
  exact ofType

theorem failed {r : Except Fault α} {e : Fault} (blames : BlamesTypes r) (eq : r = .error e) :
    BlamesTypes (.error e : Except Fault β) := error (blames e eq)

theorem map {r : Except Fault α} (blames : BlamesTypes r) (f : α → β) : BlamesTypes (r.map f) := by
  cases r with
  | error e => exact error (blames e rfl)
  | ok a => exact ok (f a)

theorem mapError {r : Except Fault α} (blames : BlamesTypes r) (boundary n : Nat) :
    r.mapError (Fault.moved boundary n) = r := by
  cases r with
  | error e => exact congrArg Except.error ((blames e rfl).moved boundary n)
  | ok a => rfl

end BlamesTypes

theorem orOverflow_blames (type : UInt32) (size : Option UInt32) :
    BlamesTypes (orOverflow type size) := by
  cases size with
  | none => exact .error (.overflow type)
  | some n => exact .ok n

namespace Declarations

variable (d : Declarations)

theorem sized_blames (member : Option (UInt32 × UInt32)) (type : UInt32) (levels : Nat) :
    BlamesTypes (d.sized member type levels) := by
  induction levels generalizing member type with
  | zero => exact .error (.tooDeep type)
  | succ levels ih =>
    cases next : d.sizedFrom? type with
    | none =>
      obtain ⟨size, run⟩ := sized_last next member levels
      rw [run]
      exact orOverflow_blames type size
    | some inner =>
      obtain ⟨member', finish, run⟩ := sized_next next member levels
      rw [run]
      split
      · rename_i e refused
        exact (ih member' inner).failed refused
      · rename_i size _
        exact orOverflow_blames type (finish size)

theorem unwrapped_blames (whole type : UInt32) (levels : Nat) :
    BlamesTypes (d.unwrapped whole type levels) := by
  induction levels generalizing type with
  | zero => exact .error (.tooDeep whole)
  | succ levels ih =>
    cases next : d.element? type with
    | none =>
      rw [unwrapped_last next]
      exact .ok type
    | some element =>
      rw [unwrapped_next next]
      exact ih element

theorem baseType_blames (type : UInt32) : BlamesTypes (d.baseType type) :=
  d.unwrapped_blames type type (maxTypeDepth + 1)

theorem activeRange?_blames (block : UInt32) (members : List UInt32) (index : UInt32) :
    BlamesTypes (d.activeRange? block members index) := by
  unfold activeRange?
  split
  · exact .ok none
  · split
    · rename_i e refused
      exact (d.sized_blames _ _ _).failed refused
    · exact .ok _

theorem activeRanges_blames (block : UInt32) (members indices : List UInt32) :
    BlamesTypes (d.activeRanges block members indices) := by
  induction indices with
  | nil => exact .ok []
  | cons index rest ih =>
    rw [activeRanges]
    split
    · rename_i e refused
      exact (d.activeRange?_blames block members index).failed refused
    · split
      · rename_i e refused
        exact ih.failed refused
      · exact .ok _

variable (v : Variable)

theorem uniformBuffer?_blames : BlamesTypes (d.uniformBuffer? v) := by
  unfold uniformBuffer?
  split
  · exact .ok none
  · split
    · rename_i e refused
      exact (d.baseType_blames _).failed refused
    · split
      · split
        · split
          · rename_i e refused
            exact (d.activeRanges_blames _ _ _).failed refused
          · exact .ok _
        · exact .ok none
      · exact .ok none

theorem sampledImage?_blames : BlamesTypes (d.sampledImage? v) := by
  unfold sampledImage?
  split
  · exact .ok none
  · split
    · rename_i e refused
      exact (d.baseType_blames _).failed refused
    · split
      · exact .ok _
      · exact .ok none

theorem isBuiltIn_blames : BlamesTypes (d.isBuiltIn v) := by
  unfold isBuiltIn
  split
  · exact .ok true
  · split
    · exact .ok false
    · split
      · rename_i e refused
        exact (d.baseType_blames _).failed refused
      · split
        · exact .ok _
        · exact .ok false

theorem stageInput?_blames : BlamesTypes (d.stageInput? v) := by
  unfold stageInput?
  split
  · rename_i e refused
    exact (d.isBuiltIn_blames v).failed refused
  · exact .ok none
  · exact .ok _

theorem resource?_blames : BlamesTypes (d.resource? v) := by
  unfold resource?
  split
  · exact (d.sampledImage?_blames v).map _
  · exact (d.stageInput?_blames v).map _
  · exact (d.uniformBuffer?_blames v).map _
  · exact .ok none

theorem resourceList_blames (vs : List Variable) : BlamesTypes (d.resourceList vs) := by
  induction vs with
  | nil => exact .ok []
  | cons v rest ih =>
    rw [resourceList]
    split
    · rename_i e refused
      exact (d.resource?_blames v).failed refused
    · split
      · rename_i e refused
        exact ih.failed refused
      · exact .ok _

theorem resources_blames : BlamesTypes d.resources := (d.resourceList_blames d.globals).map _

end Declarations

/-- What is reported with an instruction that is passed over at a boundary, and without it: the same, or
a fault that is the same but for the place of the words behind the boundary. -/
theorem introspect_insert {front : List UInt32} {i : Instruction} (bounded : Bounded front)
    (encodable : i.Encodable) (foreign : minOperands i.opcode = none) (back : List UInt32) :
    introspect (front ++ (i.encode ++ back)) =
      (introspect (front ++ back)).mapError (Fault.moved front.length i.encode.length) := by
  unfold introspect
  rw [parse_insert bounded encodable foreign]
  cases parse (front ++ back) with
  | error e => rfl
  | ok d => exact (d.resources_blames.mapError _ _).symm

namespace NamedInput

def front : List UInt32 :=
  [magic, 0x10000, 0, 9, 0] ++ [(⟨5, [3, 0x7675]⟩ : Instruction)].flatMap Instruction.encode

def capability : Instruction := ⟨17, [1]⟩

def input : Instruction := ⟨59, [2, 3, 1]⟩

def bareName : Instruction := ⟨5, []⟩

end NamedInput

open NamedInput

theorem introspect_insert_capability :
    Bounded front ∧ capability.Encodable ∧ minOperands capability.opcode = none ∧
      introspect (front ++ input.encode) = .ok ⟨[], [], ["uv"]⟩ ∧
      introspect (front ++ (capability.encode ++ input.encode)) = .ok ⟨[], [], ["uv"]⟩ ∧
      introspect (front ++ bareName.encode) = .error (.missingOperands 8 5) ∧
      introspect (front ++ (capability.encode ++ bareName.encode)) =
        .error (.missingOperands 10 5) := by
  have bounded : Bounded front := ⟨by decide, _, splits_encode (by decide)⟩
  have encodable : capability.Encodable := by decide
  have reported : introspect (front ++ input.encode) = .ok ⟨[], [], ["uv"]⟩ := by decide +kernel
  have refused : introspect (front ++ bareName.encode) = .error (.missingOperands 8 5) := by decide +kernel
  refine ⟨bounded, encodable, rfl, reported, ?_, refused, ?_⟩
  · rw [introspect_insert bounded encodable rfl, reported]
    rfl
  · rw [introspect_insert bounded encodable rfl, refused]
    rfl

end SceneGpu.Bytecode
