import Mathlib.Data.List.Forall2
import SceneGpu.Bytecode.Resource
import SceneGpu.Proofs.Bytecode.History
/-!
The active members of uniform blocks, told from the instructions behind the declaration of the variable:
each buffer that is reported has the members that its variable's loads, copies and chains read.
-/
namespace SceneGpu.Bytecode

/-- The variable is a uniform, and one instruction alone declares its id. -/
structure DeclaresUniform (words : List UInt32) (v : Variable) (front : List Instruction)
    (decl : Instruction) (back : List Instruction) : Prop where
  splits : Splits (words.drop headerWords) (front ++ decl :: back)
  declares : decl.declared? = some v
  uniform : v.storage = 2
  once : ∀ i ∈ front ++ back, ∀ u ∈ i.declared?, u.id ≠ v.id

namespace Declarations

inductive Wraps (d : Declarations) (inner : UInt32) : Nat → UInt32 → Prop
  | bare : Wraps d inner 0 inner
  | array {levels : Nat} {type element length : UInt32}
      (array : d.types type = some (.array element length)) (more : Wraps d inner levels element) :
      Wraps d inner (levels + 1) type

structure PointsToBlock (d : Declarations) (v : Variable) (levels : Nat) (block : UInt32)
    (members : List UInt32) : Prop where
  wraps : ∃ pointee, d.pointee? v.pointerType = some pointee ∧ d.Wraps block levels pointee
  struct : d.types block = some (.struct members)
  isBlock : d.isBlock block = true

structure TellsBlock (d : Declarations) (v : Variable) (block : UInt32) (b : UniformBuffer) : Prop where
  name : b.name = ((d.name? block).or (d.name? v.id)).getD ""
  set : b.set = d.setOf v.id
  binding : b.binding = d.bindingOf v.id

structure TellsMember (d : Declarations) (block : UInt32) (members : List UInt32) (a : ActiveRange) :
    Prop where
  name : a.name = (d.memberNames (block, a.index)).getD ""
  offset : a.offset = ((d.memberDecorations (block, a.index)).bind (·.offset)).getD 0
  range : ∃ type, members[a.index.toNat]? = some type ∧
    d.declaredSize (some (block, a.index)) type = .ok a.range

/-- The active ranges that the instructions behind a declaration tell. -/
structure ActiveAfter (d : Declarations) (id block : UInt32) (members : List UInt32)
    (later : List (List Instruction × Instruction)) (active : List ActiveRange) : Prop where
  tells : ∀ a ∈ active, d.TellsMember block members a
  whole : ReadWhole id later → active.map (·.index.toNat) = List.range members.length
  partly : ¬ ReadWhole id later → active.map (·.index) =
    (indexValues 0 id later).eraseDups.filter (·.toNat < members.length)

def blockOf? (d : Declarations) (v : Variable) : Option UInt32 :=
  match d.pointee? v.pointerType with
  | none => none
  | some pointee =>
    match d.baseType pointee with
    | .error _ => none
    | .ok block =>
      match d.types block with
      | some (.struct _) => if d.isBlock block then some block else none
      | _ => none

def isUniformBlock (d : Declarations) (v : Variable) : Bool :=
  v.storage = 2 && (d.blockOf? v).isSome

def Reports (d : Declarations) (r : Resources) (v : Variable) (b : UniformBuffer) : Prop :=
  ∃ k : Nat, (d.globals.filter d.isUniformBlock)[k]? = some v ∧ r.uniformBuffers[k]? = some b

section Ranges

variable {d : Declarations} {block : UInt32} {members : List UInt32}

theorem activeRange?_ok {index : UInt32} {o : Option ActiveRange}
    (ok : d.activeRange? block members index = .ok o) :
    o.toList.map (·.index) = [index].filter (·.toNat < members.length) ∧
      ∀ a ∈ o.toList, d.TellsMember block members a := by
  unfold activeRange? at ok
  split at ok
  · rename_i past
    cases ok
    simp [Nat.not_lt.mpr (List.getElem?_eq_none_iff.mp past)]
  · rename_i type there
    have within := (List.getElem?_eq_some_iff.mp there).1
    split at ok
    · cases ok
    · rename_i range size
      cases ok
      refine ⟨by simp [within], ?_⟩
      intro a mem
      obtain rfl := List.mem_singleton.mp mem
      exact ⟨rfl, rfl, type, there, size⟩

theorem activeRanges_ok {indices : List UInt32} {active : List ActiveRange}
    (ok : d.activeRanges block members indices = .ok active) :
    active.map (·.index) = indices.filter (·.toNat < members.length) ∧
      ∀ a ∈ active, d.TellsMember block members a := by
  induction indices generalizing active with
  | nil =>
    cases ok
    simp
  | cons index rest ih =>
    unfold activeRanges at ok
    split at ok
    · cases ok
    · rename_i o first
      split at ok
      · cases ok
      · rename_i more others
        cases ok
        obtain ⟨here, tells⟩ := activeRange?_ok first
        obtain ⟨behind, tellMore⟩ := ih others
        constructor
        · rw [List.map_append, here, behind, ← List.filter_append, List.singleton_append]
        · intro a mem
          rcases List.mem_append.mp mem with mem | mem
          · exact tells a mem
          · exact tellMore a mem

theorem memberIndices_toNat (few : members.length < 2 ^ 32) :
    (memberIndices members).map UInt32.toNat = List.range members.length := by
  unfold memberIndices
  rw [List.map_map]
  refine (List.map_congr_left ?_).trans (List.map_id _)
  intro i mem
  exact UInt32.toNat_ofNat_of_lt' (Nat.lt_trans (List.mem_range.mp mem) few)

theorem memberIndices_filter (few : members.length < 2 ^ 32) :
    (memberIndices members).filter (·.toNat < members.length) = memberIndices members := by
  refine List.filter_eq_self.mpr ?_
  intro index mem
  have within : index.toNat ∈ (memberIndices members).map UInt32.toNat := List.mem_map_of_mem mem
  rw [memberIndices_toNat few] at within
  simpa using within

end Ranges

section Reported

variable {d : Declarations} {v : Variable}

theorem unwrapped_wraps {whole inner type base : UInt32} {levels : Nat} (wraps : d.Wraps inner levels type)
    (bare : ∀ element length, d.types inner ≠ some (.array element length)) {left : Nat}
    (ok : d.unwrapped whole type left = .ok base) : base = inner := by
  induction wraps generalizing left with
  | bare =>
    cases left with
    | zero => cases ok
    | succ left =>
      unfold unwrapped at ok
      split at ok
      · rename_i array
        exact absurd array (bare _ _)
      · exact (Except.ok.inj ok).symm
  | array array more ih =>
    cases left with
    | zero => cases ok
    | succ left =>
      unfold unwrapped at ok
      rw [array] at ok
      exact ih ok

theorem uniformBuffer?_isSome {o : Option UniformBuffer} (ok : d.uniformBuffer? v = .ok o) :
    (d.blockOf? v).isSome = o.isSome := by
  unfold uniformBuffer? at ok
  unfold blockOf?
  cases pointer : d.pointee? v.pointerType with
  | none =>
    rw [pointer] at ok
    cases ok
    rfl
  | some pointee =>
    rw [pointer] at ok
    dsimp only at ok ⊢
    cases base : d.baseType pointee with
    | error fault =>
      rw [base] at ok
      cases ok
    | ok block =>
      rw [base] at ok
      dsimp only at ok ⊢
      cases found : d.types block with
      | none =>
        rw [found] at ok
        cases ok
        rfl
      | some t =>
        rw [found] at ok
        cases t with
        | struct members =>
          dsimp only at ok ⊢
          by_cases isBlock : d.isBlock block = true
          · rw [if_pos isBlock] at ok ⊢
            cases ranges : d.activeRanges block members (d.activeIndices v members) with
            | error fault =>
              rw [ranges] at ok
              cases ok
            | ok active =>
              rw [ranges] at ok
              cases ok
              rfl
          · rw [if_neg isBlock] at ok ⊢
            cases ok
            rfl
        | _ =>
          cases ok
          rfl

theorem uniformBuffer?_block {levels : Nat} {block : UInt32} {members : List UInt32}
    (points : d.PointsToBlock v levels block members) {o : Option UniformBuffer}
    (ok : d.uniformBuffer? v = .ok o) :
    ∃ b, o = some b ∧ d.TellsBlock v block b ∧
      d.activeRanges block members (d.activeIndices v members) = .ok b.active := by
  obtain ⟨pointee, pointer, wraps⟩ := points.wraps
  unfold uniformBuffer? at ok
  rw [pointer] at ok
  dsimp only at ok
  split at ok
  · cases ok
  · rename_i inner base
    have bare : ∀ element length, d.types block ≠ some (.array element length) := by
      intro element length array
      rw [points.struct] at array
      cases array
    obtain rfl := unwrapped_wraps wraps bare base
    rw [points.struct] at ok
    dsimp only at ok
    rw [if_pos points.isBlock] at ok
    split at ok
    · cases ok
    · rename_i active ranges
      cases ok
      exact ⟨_, rfl, ⟨rfl, rfl, rfl⟩, ranges⟩

theorem resourceList_cons {vs : List Variable} {rs : List Resource}
    (ok : d.resourceList (v :: vs) = .ok rs) :
    ∃ o more, d.resource? v = .ok o ∧ d.resourceList vs = .ok more ∧ rs = o.toList ++ more := by
  unfold resourceList at ok
  split at ok
  · cases ok
  · rename_i o first
    split at ok
    · cases ok
    · rename_i more others
      cases ok
      exact ⟨o, more, first, others, rfl⟩

theorem resourceList_mem {vs : List Variable} {rs : List Resource} (ok : d.resourceList vs = .ok rs)
    (mem : v ∈ vs) : ∃ o, d.resource? v = .ok o := by
  induction vs generalizing rs with
  | nil => cases mem
  | cons u vs ih =>
    obtain ⟨o, more, first, others, _⟩ := resourceList_cons ok
    rcases List.mem_cons.mp mem with rfl | mem
    · exact ⟨o, first⟩
    · exact ih others mem

theorem resource?_uniform {o : Option Resource} (uniform : v.storage = 2) (ok : d.resource? v = .ok o) :
    ∃ b, d.uniformBuffer? v = .ok b ∧ o = b.map .uniformBuffer := by
  unfold resource? at ok
  rw [uniform] at ok
  change (d.uniformBuffer? v).map _ = _ at ok
  cases found : d.uniformBuffer? v with
  | error fault =>
    rw [found] at ok
    cases ok
  | ok b =>
    rw [found] at ok
    exact ⟨b, rfl, (Except.ok.inj ok).symm⟩

theorem resource?_other {o : Option Resource} (other : v.storage ≠ 2) (ok : d.resource? v = .ok o) :
    ∀ b, o ≠ some (.uniformBuffer b) := by
  rintro b rfl
  have away : v.storage.toNat ≠ 2 := fun same => other (UInt32.toNat_inj.mp same)
  unfold resource? at ok
  split at ok
  · cases found : d.sampledImage? v with
    | error fault => rw [found] at ok; cases ok
    | ok image => rw [found] at ok; cases image <;> cases ok
  · cases found : d.stageInput? v with
    | error fault => rw [found] at ok; cases ok
    | ok name => rw [found] at ok; cases name <;> cases ok
  · rename_i same
    exact away same
  · cases ok

theorem resourceList_buffers {vs : List Variable} {rs : List Resource} (ok : d.resourceList vs = .ok rs) :
    List.Forall₂ (fun v b => d.uniformBuffer? v = .ok (some b)) (vs.filter d.isUniformBlock)
      (Resources.ofList rs).uniformBuffers := by
  induction vs generalizing rs with
  | nil =>
    cases ok
    exact .nil
  | cons v vs ih =>
    obtain ⟨o, more, first, others, rfl⟩ := resourceList_cons ok
    change List.Forall₂ _ _ ((o.toList ++ more).filterMap _)
    rw [List.filterMap_append]
    by_cases uniform : v.storage = 2
    · obtain ⟨b, found, rfl⟩ := resource?_uniform uniform first
      have points := uniformBuffer?_isSome found
      cases b with
      | none =>
        rw [List.filter_cons_of_neg (by simp [isUniformBlock, points])]
        exact ih others
      | some b =>
        rw [List.filter_cons_of_pos (by simp [isUniformBlock, points, uniform])]
        exact .cons found (ih others)
    · have nothing := resource?_other uniform first
      rw [List.filter_cons_of_neg (by simp [isUniformBlock, uniform])]
      cases o with
      | none => exact ih others
      | some o =>
        cases o with
        | uniformBuffer b => exact absurd rfl (nothing b)
        | sampledImage i => exact ih others
        | stageInput name => exact ih others

theorem introspect_ok {words : List UInt32} {r : Resources} (parsed : parse words = .ok d)
    (introspected : introspect words = .ok r) :
    ∃ rs, d.resourceList d.globals = .ok rs ∧ Resources.ofList rs = r := by
  unfold introspect at introspected
  rw [parsed] at introspected
  change (d.resourceList d.globals).map Resources.ofList = .ok r at introspected
  cases listed : d.resourceList d.globals with
  | error fault =>
    rw [listed] at introspected
    cases introspected
  | ok rs =>
    rw [listed] at introspected
    exact ⟨rs, rfl, Except.ok.inj introspected⟩

theorem reported {words : List UInt32} {r : Resources} (parsed : parse words = .ok d)
    (introspected : introspect words = .ok r) (mem : v ∈ d.globals) (uniform : v.storage = 2)
    {levels : Nat} {block : UInt32} {members : List UInt32}
    (points : d.PointsToBlock v levels block members) :
    ∃ b, d.Reports r v b ∧
      d.activeRanges block members (d.activeIndices v members) = .ok b.active := by
  obtain ⟨rs, listed, rfl⟩ := introspect_ok parsed introspected
  obtain ⟨o, one⟩ := resourceList_mem listed mem
  obtain ⟨o, own, _⟩ := resource?_uniform uniform one
  obtain ⟨b, rfl, _, ranges⟩ := uniformBuffer?_block points own
  have counts : d.isUniformBlock v = true := by
    simp [isUniformBlock, uniform, uniformBuffer?_isSome own]
  obtain ⟨lengths, pairs⟩ := List.forall₂_iff_get.mp (resourceList_buffers listed)
  obtain ⟨k, within, there⟩ := List.mem_iff_getElem.mp (List.mem_filter.mpr ⟨mem, counts⟩)
  have same := pairs k within (lengths ▸ within)
  rw [List.get_eq_getElem, there, own] at same
  obtain rfl := Option.some.inj (Except.ok.inj same)
  exact ⟨_, ⟨k, List.getElem?_eq_some_iff.mpr ⟨within, there⟩, List.getElem?_eq_getElem _⟩, ranges⟩

theorem activeIndices_eq (d : Declarations) (v : Variable) (members : List UInt32) :
    d.activeIndices v members =
      (Access.members? (d.access v.id)).getD (memberIndices members) := by
  unfold activeIndices
  cases d.access v.id with
  | none => rfl
  | some read => cases read <;> rfl

end Reported

section Told

variable {words : List UInt32} {d : Declarations} {r : Resources} {v : Variable}
  {front back : List Instruction} {decl : Instruction} {levels : Nat} {block : UInt32}
  {members : List UInt32}

/-- What is read of a variable that is declared once is what the instructions behind it read. -/
theorem activeIndices_declared (members : List UInt32) (parsed : parse words = .ok d)
    (declared : DeclaresUniform words v front decl back) :
    v ∈ d.globals ∧
    (ReadWhole v.id (scan (front ++ [decl]) back) →
      d.activeIndices v members = memberIndices members) ∧
    (¬ ReadWhole v.id (scan (front ++ [decl]) back) →
      d.activeIndices v members = (indexValues 0 v.id (scan (front ++ [decl]) back)).eraseDups) := by
  have split := declared.splits
  rw [← List.singleton_append, ← List.append_assoc] at split
  obtain rfl := parse_splits parsed split
  have fresh : ∀ i ∈ front, ∀ u, i.mention? = some (.variable u) → u.id ≠ v.id := by
    intro i mem u told
    exact declared.once i (List.mem_append_left back mem) u (Instruction.declared?_eq_some.mpr told)
  have unknown : (front.foldl add {}).isVariable v.id = false := by
    rw [← Bool.not_eq_true, isVariable_foldl]
    rintro ⟨i, mem, u, told, same⟩
    exact fresh i mem u told same
  have unread : ((front ++ [decl]).foldl add {}).access v.id = none := by
    rw [foldl_concat, access_add_undeclared unknown, access_undeclared fresh]
  have known : ((front ++ [decl]).foldl add {}).isVariable v.id = true := by
    rw [isVariable_foldl]
    exact ⟨decl, List.mem_append_right _ (List.mem_singleton_self _), v,
      Instruction.declared?_eq_some.mp declared.declares, rfl⟩
  obtain ⟨covered, listed⟩ := members?_access known unread back
  refine ⟨?_, ?_, ?_⟩
  · rw [globals_foldl]
    exact List.mem_filterMap.mpr ⟨decl, by simp, declared.declares⟩
  · intro whole
    rw [activeIndices_eq, covered whole]
    rfl
  · intro partly
    rw [activeIndices_eq, listed partly]
    rfl

theorem active_declared (parsed : parse words = .ok d) (introspected : introspect words = .ok r)
    (declared : DeclaresUniform words v front decl back)
    (points : d.PointsToBlock v levels block members) :
    ∃ b, d.Reports r v b ∧
      d.ActiveAfter v.id block members (scan (front ++ [decl]) back) b.active := by
  obtain ⟨mem, covered, listed⟩ := activeIndices_declared members parsed declared
  obtain ⟨b, reports, ranges⟩ := reported parsed introspected mem declared.uniform points
  obtain ⟨indices, tells⟩ := activeRanges_ok ranges
  have few : members.length < 2 ^ 32 := Nat.lt_trans (struct_length_lt parsed points.struct) (by decide)
  refine ⟨b, reports, tells, ?_, ?_⟩
  · intro whole
    rw [covered whole, memberIndices_filter few] at indices
    rw [← memberIndices_toNat few, ← indices, List.map_map]
    rfl
  · intro partly
    rw [indices, listed partly]

/-- All members of a block are active if it is read as a whole, and otherwise those that the chains select
by their first index, in the order of the chains. -/
theorem introspect_active (parsed : parse words = .ok d) (introspected : introspect words = .ok r)
    (declared : DeclaresUniform words v front decl back)
    (pointee : d.pointee? v.pointerType = some block) (struct : d.types block = some (.struct members))
    (isBlock : d.isBlock block = true) :
    ∃ b, d.Reports r v b ∧
      d.ActiveAfter v.id block members (scan (front ++ [decl]) back) b.active :=
  active_declared parsed introspected declared ⟨⟨block, pointee, .bare⟩, struct, isBlock⟩

end Told

end Declarations

namespace TwoVectors

def header : List UInt32 := [magic, 0x10000, 0, 21, 0]

/-- A block of two vectors, the constants 0, 1 and 9, and an array of nine such blocks. -/
def types : List Instruction :=
  [⟨17, [1]⟩, ⟨14, [0, 1]⟩, ⟨15, [0, 20, 0x6e69616d, 0]⟩, ⟨72, [3, 0, 35, 0]⟩, ⟨72, [3, 1, 35, 16]⟩,
   ⟨71, [3, 2]⟩, ⟨71, [11, 34, 0]⟩, ⟨71, [11, 33, 0]⟩, ⟨19, [17]⟩, ⟨33, [18, 17]⟩, ⟨22, [1, 32]⟩,
   ⟨23, [2, 1, 4]⟩, ⟨30, [3, 2, 2]⟩, ⟨21, [4, 32, 0]⟩, ⟨43, [4, 5, 0]⟩, ⟨43, [4, 6, 1]⟩,
   ⟨43, [4, 7, 9]⟩, ⟨28, [8, 3, 7]⟩, ⟨32, [12, 2, 2]⟩]

def uniform : Variable := ⟨11, 10, 2⟩

def decl : Instruction := ⟨59, [10, 11, 2]⟩

def front (pointee : UInt32) : List Instruction := types ++ [⟨32, [10, 2, pointee]⟩]

def back (chains : List Instruction) : List Instruction :=
  [⟨54, [17, 20, 0, 18]⟩, ⟨248, [19]⟩] ++ chains ++ [⟨253, []⟩, ⟨56, []⟩]

def words (pointee : UInt32) (chains : List Instruction) : List UInt32 :=
  header ++ (front pointee ++ decl :: back chains).flatMap Instruction.encode

def made (pointee : UInt32) (chains : List Instruction) : Declarations :=
  (front pointee ++ decl :: back chains).foldl Declarations.add {}

def memberChains : List Instruction :=
  [⟨65, [12, 13, 11, 6]⟩, ⟨66, [12, 14, 11, 5]⟩, ⟨65, [12, 15, 11, 7]⟩, ⟨65, [12, 16, 11, 6]⟩]

end TwoVectors

open TwoVectors

theorem introspect_active_two_vectors :
    ∃ r, parse (words 3 memberChains) = .ok (made 3 memberChains) ∧
      introspect (words 3 memberChains) = .ok r ∧
      r.uniformBuffers = [⟨"", 0, 0, [⟨1, "", 16, 16⟩, ⟨0, "", 0, 16⟩]⟩] ∧
      ∃ b, (made 3 memberChains).Reports r uniform b ∧
        (made 3 memberChains).ActiveAfter 11 3 [2, 2] (scan (front 3 ++ [decl]) (back memberChains))
          b.active := by
  have encodable : ∀ i ∈ front 3 ++ decl :: back memberChains, i.Encodable := by decide
  have parsed : parse (words 3 memberChains) = .ok (made 3 memberChains) :=
    parse_encode ⟨by decide, rfl⟩ rfl encodable (by decide)
  have introspected : introspect (words 3 memberChains) =
      .ok ⟨[⟨"", 0, 0, [⟨1, "", 16, 16⟩, ⟨0, "", 0, 16⟩]⟩], [], []⟩ := by
    unfold introspect
    rw [parsed]
    rfl
  have declared : DeclaresUniform (words 3 memberChains) uniform (front 3) decl (back memberChains) :=
    ⟨splits_encode encodable, rfl, rfl, by decide⟩
  exact ⟨_, parsed, introspected, rfl,
    Declarations.introspect_active parsed introspected declared rfl rfl rfl⟩

end SceneGpu.Bytecode
