import Mathlib.Data.List.Induction
import SceneGpu.Proofs.Bytecode.Grammar
/-!
What a run of instructions has settled: its variables, its constants, the lengths of its structs, and what
has been read of a variable. Each is told from the instructions, without the tables they fill.
-/
namespace SceneGpu.Bytecode

/-- What an instruction told of variables and constants: declared, defined, loaded or copied from, or the
base of a chain of indices. -/
inductive Mention where
  | variable (v : Variable)
  | constant (id value : UInt32)
  | whole (source : UInt32)
  | chain (base : UInt32) (indices : List UInt32)
deriving DecidableEq

namespace Instruction

def mention? (i : Instruction) : Option Mention :=
  match i.opcode.toNat, i.operands with
  | 43, _ :: id :: value :: _ => some (.constant id value)
  | 59, type :: id :: storage :: _ => some (.variable ⟨id, type, storage⟩)
  | 61, _ :: _ :: source :: _ => some (.whole source)
  | 63, _ :: source :: _ => some (.whole source)
  | 65, _ :: _ :: base :: indices => some (.chain base indices)
  | 66, _ :: _ :: base :: indices => some (.chain base indices)
  | _, _ => none

def declared? (i : Instruction) : Option Variable :=
  match i.mention? with
  | some (.variable v) => some v
  | _ => none

def value? (id : UInt32) (i : Instruction) : Option UInt32 :=
  match i.mention? with
  | some (.constant k value) => if k = id then some value else none
  | _ => none

/-- A load, a copy, or a chain whose first index is missing or no constant known so far. -/
def readsWhole (known : UInt32 → Option UInt32) (id : UInt32) (i : Instruction) : Bool :=
  match i.mention? with
  | some (.whole source) => source = id
  | some (.chain base indices) => base = id && (indices[0]?.bind known).isNone
  | _ => false

def indexValue? (place : Nat) (known : UInt32 → Option UInt32) (id : UInt32) (i : Instruction) :
    Option UInt32 :=
  match i.mention? with
  | some (.chain base indices) => if base = id then indices[place]?.bind known else none
  | _ => none

theorem declared?_eq_some {i : Instruction} {v : Variable} :
    i.declared? = some v ↔ i.mention? = some (.variable v) := by
  unfold declared?
  cases i.mention? with
  | none => simp
  | some told => cases told <;> simp

end Instruction

def valueIn? (is : List Instruction) (id : UInt32) : Option UInt32 :=
  is.reverse.findSome? (·.value? id)

def scan (earlier : List Instruction) : List Instruction → List (List Instruction × Instruction)
  | [] => []
  | i :: rest => (earlier, i) :: scan (earlier ++ [i]) rest

def ReadWhole (id : UInt32) (later : List (List Instruction × Instruction)) : Prop :=
  ∃ e ∈ later, e.2.readsWhole (valueIn? e.1) id = true

def indexValues (place : Nat) (id : UInt32) (later : List (List Instruction × Instruction)) :
    List UInt32 :=
  later.filterMap fun e => e.2.indexValue? place (valueIn? e.1) id

theorem scan_concat (earlier back : List Instruction) (i : Instruction) :
    scan earlier (back ++ [i]) = scan earlier back ++ [(earlier ++ back, i)] := by
  induction back generalizing earlier with
  | nil => simp [scan]
  | cons j rest ih => simp [scan, ih]

theorem readWhole_concat (id : UInt32) (later : List (List Instruction × Instruction))
    (e : List Instruction × Instruction) :
    ReadWhole id (later ++ [e]) ↔ ReadWhole id later ∨ e.2.readsWhole (valueIn? e.1) id = true := by
  simp [ReadWhole, or_and_right, exists_or]

theorem indexValues_concat (place : Nat) (id : UInt32) (later : List (List Instruction × Instruction))
    (e : List Instruction × Instruction) :
    indexValues place id (later ++ [e]) =
      indexValues place id later ++ (e.2.indexValue? place (valueIn? e.1) id).toList := by
  simp only [indexValues, List.filterMap_append, List.filterMap_cons, List.filterMap_nil]
  cases e.2.indexValue? place (valueIn? e.1) id <;> rfl

theorem valueIn?_concat (is : List Instruction) (i : Instruction) (id : UInt32) :
    valueIn? (is ++ [i]) id = (i.value? id).or (valueIn? is id) := by
  unfold valueIn?
  rw [List.reverse_concat, List.findSome?_cons]
  cases i.value? id <;> rfl

theorem eraseDups_concat (l : List UInt32) (a : UInt32) :
    (l ++ [a]).eraseDups = if a ∈ l.eraseDups then l.eraseDups else l.eraseDups ++ [a] := by
  have alone : [a].eraseDups = [a] := by
    rw [List.eraseDups_cons, List.filter_nil, List.eraseDups_nil]
  rw [List.eraseDups_append]
  by_cases old : a ∈ l
  · simp [List.removeAll, old]
  · simp [List.removeAll, old, alone]

def Access.members? : Option Access → Option (List UInt32)
  | none => some []
  | some (.members indices) => some indices
  | some .whole => none

theorem Access.members?_touch (member : UInt32) (a : Option Access) :
    Access.members? (some (Access.touch member a)) =
      (Access.members? a).map fun ms => if member ∈ ms then ms else ms ++ [member] := by
  cases a with
  | none => simp [Access.touch, Access.members?]
  | some read => cases read <;> rfl

namespace Declarations

theorem add_cases (m : Declarations) (i : Instruction) :
    (∃ id value, i.mention? = some (.constant id value) ∧
      m.add i = { m with constants := m.constants.set id value }) ∨
    (∃ v, i.mention? = some (.variable v) ∧ m.add i = { m with globals := m.globals ++ [v] }) ∨
    (∃ source, i.mention? = some (.whole source) ∧ m.add i = m.readWhole source) ∨
    (∃ base indices, i.mention? = some (.chain base indices) ∧ m.add i = m.readChain base indices) ∨
    (i.mention? = none ∧ (m.add i).globals = m.globals ∧ (m.add i).constants = m.constants ∧
      (m.add i).access = m.access) := by
  unfold Instruction.mention?
  split
  case h_1 op o => exact .inl ⟨_, _, rfl, by simp only [add, op, o]⟩
  case h_2 op o => exact .inr (.inl ⟨_, rfl, by simp only [add, op, o]⟩)
  case h_3 op o => exact .inr (.inr (.inl ⟨_, rfl, by simp only [add, op, o]⟩))
  case h_4 op o => exact .inr (.inr (.inl ⟨_, rfl, by simp only [add, op, o]⟩))
  case h_5 op o => exact .inr (.inr (.inr (.inl ⟨_, _, rfl, by simp only [add, op, o]⟩)))
  case h_6 op o => exact .inr (.inr (.inr (.inl ⟨_, _, rfl, by simp only [add, op, o]⟩)))
  case h_7 =>
    refine .inr (.inr (.inr (.inr ⟨rfl, ?_⟩)))
    unfold add
    split
    all_goals first
      | exact ⟨rfl, rfl, rfl⟩
      | exact False.elim (by solve_by_elim)

@[simp] theorem readWhole_globals (m : Declarations) (id : UInt32) :
    (m.readWhole id).globals = m.globals := by
  unfold readWhole
  split <;> rfl

@[simp] theorem readWhole_constants (m : Declarations) (id : UInt32) :
    (m.readWhole id).constants = m.constants := by
  unfold readWhole
  split <;> rfl

@[simp] theorem readWhole_types (m : Declarations) (id : UInt32) :
    (m.readWhole id).types = m.types := by
  unfold readWhole
  split <;> rfl

@[simp] theorem readChain_globals (m : Declarations) (base : UInt32) (indices : List UInt32) :
    (m.readChain base indices).globals = m.globals := by
  unfold readChain
  split <;> rfl

@[simp] theorem readChain_constants (m : Declarations) (base : UInt32) (indices : List UInt32) :
    (m.readChain base indices).constants = m.constants := by
  unfold readChain
  split <;> rfl

@[simp] theorem readChain_types (m : Declarations) (base : UInt32) (indices : List UInt32) :
    (m.readChain base indices).types = m.types := by
  unfold readChain
  split <;> rfl

theorem globals_add (m : Declarations) (i : Instruction) :
    (m.add i).globals = m.globals ++ i.declared?.toList := by
  unfold Instruction.declared?
  rcases m.add_cases i with ⟨id, value, told, next⟩ | ⟨v, told, next⟩ | ⟨source, told, next⟩ |
    ⟨base, indices, told, next⟩ | ⟨told, same, _⟩
  · simp [told, next]
  · simp [told, next]
  · simp [told, next]
  · simp [told, next]
  · simp [told, same]

theorem constants_add (m : Declarations) (i : Instruction) (id : UInt32) :
    (m.add i).constants id = (i.value? id).or (m.constants id) := by
  unfold Instruction.value?
  rcases m.add_cases i with ⟨k, value, told, next⟩ | ⟨v, told, next⟩ | ⟨source, told, next⟩ |
    ⟨base, indices, told, next⟩ | ⟨told, _, same, _⟩
  · by_cases here : k = id
    · simp [told, next, Table.set, here]
    · simp [told, next, Table.set, here, Ne.symm here]
  · simp [told, next]
  · simp [told, next]
  · simp [told, next]
  · simp [told, same]

theorem readWhole_access (m : Declarations) (source id : UInt32) :
    (m.readWhole source).access id =
      if m.isVariable id ∧ source = id then some .whole else m.access id := by
  unfold readWhole
  by_cases here : source = id
  · subst here
    by_cases declared : m.isVariable source = true
    · simp [declared, Table.set]
    · simp [declared]
  · by_cases declared : m.isVariable source = true
    · simp [declared, Table.set, here, Ne.symm here]
    · simp [declared, here]

theorem readChain_access (m : Declarations) (base : UInt32) (indices : List UInt32) (id : UInt32) :
    (m.readChain base indices).access id =
      if m.isVariable id ∧ base = id then
        some (match indices[0]?.bind m.constants with
          | some member => Access.touch member (m.access id)
          | none => .whole)
      else m.access id := by
  unfold readChain
  rw [List.head?_eq_getElem?]
  generalize indices[0]?.bind m.constants = first
  by_cases here : base = id
  · subst here
    by_cases declared : m.isVariable base = true
    · cases first <;> simp [declared, Table.set]
    · simp [declared]
  · by_cases declared : m.isVariable base = true
    · simp [declared, Table.set, here, Ne.symm here]
    · simp [declared, here]

theorem access_add_undeclared {m : Declarations} {id : UInt32} (undeclared : m.isVariable id = false)
    (i : Instruction) : (m.add i).access id = m.access id := by
  rcases m.add_cases i with ⟨k, value, told, next⟩ | ⟨v, told, next⟩ | ⟨source, told, next⟩ |
    ⟨base, indices, told, next⟩ | ⟨told, _, _, same⟩
  · rw [next]
  · rw [next]
  · simp [next, readWhole_access, undeclared]
  · simp [next, readChain_access, undeclared]
  · rw [same]

/-- A reading of the whole variable covers all before it, and a chain with a constant index adds a member. -/
theorem access_add {m : Declarations} {id : UInt32} (declared : m.isVariable id = true)
    (i : Instruction) :
    (m.add i).access id =
      if i.readsWhole m.constants id then some .whole
      else match i.indexValue? 0 m.constants id with
        | some member => some (Access.touch member (m.access id))
        | none => m.access id := by
  unfold Instruction.readsWhole Instruction.indexValue?
  rcases m.add_cases i with ⟨k, value, told, next⟩ | ⟨v, told, next⟩ | ⟨source, told, next⟩ |
    ⟨base, indices, told, next⟩ | ⟨told, _, _, same⟩
  · simp [told, next]
  · simp [told, next]
  · simp [told, next, readWhole_access, declared]
  · simp only [told, next, readChain_access]
    generalize indices[0]?.bind m.constants = first
    by_cases here : base = id
    · cases first <;> simp [here, declared]
    · simp [here]
  · simp [told, same]

theorem setType_cases {m : Declarations} {id type : UInt32} {t u : TypeDef}
    (found : (m.setType id t).types type = some u) : m.types type = some u ∨ (type = id ∧ t = u) := by
  change (if type = id then some t else m.types type) = some u at found
  split at found
  · rename_i same
    exact .inr ⟨same, Option.some.inj found⟩
  · exact .inl found

theorem struct_add {m : Declarations} {i : Instruction} {type : UInt32} {members : List UInt32}
    (struct : (m.add i).types type = some (.struct members)) :
    m.types type = some (.struct members) ∨ i.operands = type :: members := by
  unfold add at struct
  split at struct
  case h_15 o =>
    rcases setType_cases struct with old | ⟨rfl, same⟩
    · exact .inl old
    · cases same
      exact .inr o
  all_goals first
    | exact .inl struct
    | rw [readWhole_types] at struct; exact .inl struct
    | rw [readChain_types] at struct; exact .inl struct
    | exact (setType_cases struct).imp_right fun other => TypeDef.noConfusion other.2

theorem foldl_concat (is : List Instruction) (i : Instruction) :
    (is ++ [i]).foldl add {} = (is.foldl add {}).add i := by
  rw [List.foldl_append, List.foldl_cons, List.foldl_nil]

theorem globals_foldl (is : List Instruction) :
    (is.foldl add {}).globals = is.filterMap Instruction.declared? := by
  induction is using List.reverseRecOn with
  | nil => rfl
  | append_singleton is i ih =>
    rw [foldl_concat, globals_add, ih, List.filterMap_append, List.filterMap_cons,
      List.filterMap_nil]
    cases i.declared? <;> rfl

theorem constants_foldl (is : List Instruction) (id : UInt32) :
    (is.foldl add {}).constants id = valueIn? is id := by
  induction is using List.reverseRecOn with
  | nil => rfl
  | append_singleton is i ih => rw [foldl_concat, constants_add, ih, valueIn?_concat]

theorem isVariable_foldl (is : List Instruction) (id : UInt32) :
    (is.foldl add {}).isVariable id = true ↔
      ∃ i ∈ is, ∃ v, i.mention? = some (.variable v) ∧ v.id = id := by
  rw [isVariable, globals_foldl, List.any_eq_true]
  constructor
  · rintro ⟨v, mem, same⟩
    obtain ⟨i, here, told⟩ := List.mem_filterMap.mp mem
    exact ⟨i, here, v, Instruction.declared?_eq_some.mp told, by simpa using same⟩
  · rintro ⟨i, here, v, told, same⟩
    refine ⟨v, List.mem_filterMap.mpr ⟨i, here, Instruction.declared?_eq_some.mpr told⟩, ?_⟩
    simpa using same

theorem struct_foldl {is : List Instruction} {type : UInt32} {members : List UInt32}
    (struct : (is.foldl add {}).types type = some (.struct members)) :
    ∃ i ∈ is, i.operands = type :: members := by
  induction is using List.reverseRecOn with
  | nil => cases struct
  | append_singleton is i ih =>
    rw [foldl_concat] at struct
    rcases struct_add struct with old | here
    · obtain ⟨j, mem, operands⟩ := ih old
      exact ⟨j, List.mem_append_left _ mem, operands⟩
    · exact ⟨i, List.mem_append_right _ (List.mem_singleton_self i), here⟩

theorem access_undeclared {is : List Instruction} {id : UInt32}
    (undeclared : ∀ i ∈ is, ∀ v, i.mention? = some (.variable v) → v.id ≠ id) :
    (is.foldl add {}).access id = none := by
  induction is using List.reverseRecOn with
  | nil => rfl
  | append_singleton is i ih =>
    have before : ∀ j ∈ is, ∀ v, j.mention? = some (.variable v) → v.id ≠ id := by
      intro j mem
      exact undeclared j (List.mem_append_left _ mem)
    have unknown : (is.foldl add {}).isVariable id = false := by
      rw [← Bool.not_eq_true, isVariable_foldl]
      rintro ⟨j, mem, v, told, same⟩
      exact before j mem v told same
    rw [foldl_concat, access_add_undeclared unknown, ih before]

theorem isVariable_append {earlier : List Instruction} {id : UInt32}
    (declared : (earlier.foldl add {}).isVariable id = true) (back : List Instruction) :
    ((earlier ++ back).foldl add {}).isVariable id = true := by
  rw [isVariable_foldl] at declared ⊢
  obtain ⟨i, mem, v, told, same⟩ := declared
  exact ⟨i, List.mem_append_left _ mem, v, told, same⟩

/-- What is recorded of a variable is what the instructions behind its declaration read. -/
theorem members?_access {earlier : List Instruction} {id : UInt32}
    (declared : (earlier.foldl add {}).isVariable id = true)
    (unread : (earlier.foldl add {}).access id = none) (back : List Instruction) :
    (ReadWhole id (scan earlier back) →
      Access.members? (((earlier ++ back).foldl add {}).access id) = none) ∧
    (¬ ReadWhole id (scan earlier back) →
      Access.members? (((earlier ++ back).foldl add {}).access id) =
        some (indexValues 0 id (scan earlier back)).eraseDups) := by
  induction back using List.reverseRecOn with
  | nil =>
    rw [List.append_nil, unread]
    constructor
    · rintro ⟨e, mem, _⟩
      cases mem
    · intro _
      simp [scan, indexValues, Access.members?]
  | append_singleton back i ih =>
    obtain ⟨covered, listed⟩ := ih
    have known : ((earlier ++ back).foldl add {}).constants = valueIn? (earlier ++ back) :=
      funext (constants_foldl _)
    have step := access_add (isVariable_append declared back) i
    rw [known] at step
    rw [← List.append_assoc, foldl_concat, step, scan_concat, readWhole_concat,
      indexValues_concat]
    cases reads : i.readsWhole (valueIn? (earlier ++ back)) id with
    | true =>
      constructor
      · intro _
        rfl
      · intro unread
        exact absurd (.inr rfl) unread
    | false =>
      rw [if_neg Bool.false_ne_true]
      constructor
      · intro read
        have before : ReadWhole id (scan earlier back) := by simpa using read
        cases i.indexValue? 0 (valueIn? (earlier ++ back)) id with
        | none => exact covered before
        | some member =>
          rw [Access.members?_touch, covered before]
          rfl
      · intro unread
        have before : ¬ ReadWhole id (scan earlier back) := by simpa using unread
        cases i.indexValue? 0 (valueIn? (earlier ++ back)) id with
        | none =>
          rw [Option.toList_none, List.append_nil]
          exact listed before
        | some member =>
          rw [Access.members?_touch, listed before, Option.toList_some, eraseDups_concat]
          rfl

end Declarations

/-- The operands of one instruction hold the members of a struct, so they are few. -/
theorem struct_length_lt {words : List UInt32} {d : Declarations} (parsed : parse words = .ok d)
    {type : UInt32} {members : List UInt32} (struct : d.types type = some (.struct members)) :
    members.length < 2 ^ 16 := by
  obtain ⟨_, is, splits, _, rfl⟩ := parse_ok_iff.mp parsed
  obtain ⟨i, mem, operands⟩ := Declarations.struct_foldl struct
  have few := splits.operands_lt i mem
  rw [operands, List.length_cons] at few
  omega

end SceneGpu.Bytecode
