import SceneGpu.Proofs.Bytecode.ExactSize
/-!
How deep types may nest. Sizing a type and taking the arrays off it both walk from type to type; the walk
is refused exactly where it takes more than 64 steps, so a type that comes back to itself is refused, and
nothing that lies behind the 65th type is looked at.
-/
namespace SceneGpu.Bytecode

def walk (next? : UInt32 → Option UInt32) : Nat → UInt32 → Option UInt32
  | 0, type => some type
  | n + 1, type => (next? type).bind (walk next? n)

section Walk

variable {next? : UInt32 → Option UInt32} {type t : UInt32}

theorem walk_next {inner : UInt32} (next : next? type = some inner) (n : Nat) :
    walk next? (n + 1) type = walk next? n inner := by
  rw [walk, next, Option.bind_some]

theorem walk_last (last : next? type = none) (n : Nat) : walk next? (n + 1) type = none := by
  rw [walk, last, Option.bind_none]

theorem walk_add (m n : Nat) (type : UInt32) :
    walk next? (m + n) type = (walk next? m type).bind (walk next? n) := by
  induction m generalizing type with
  | zero =>
    rw [Nat.zero_add]
    rfl
  | succ m ih =>
    rw [Nat.add_right_comm]
    cases next : next? type with
    | none => rw [walk_last next, walk_last next, Option.bind_none]
    | some inner => rw [walk_next next, walk_next next, ih]

theorem walk_shorter {m n : Nat} (le : m ≤ n) (goes : (walk next? n type).isSome = true) :
    (walk next? m type).isSome = true := by
  obtain ⟨more, rfl⟩ := Nat.exists_eq_add_of_le le
  rw [walk_add] at goes
  exact Option.isSome_of_isSome_bind goes

theorem walk_cycle {k : Nat} (back : walk next? (k + 1) t = some t) (n : Nat) :
    (walk next? n t).isSome = true := by
  have rounds : ∀ r, walk next? (r * (k + 1)) t = some t := by
    intro r
    induction r with
    | zero =>
      rw [Nat.zero_mul]
      rfl
    | succ r ih => rw [Nat.succ_mul, walk_add, ih, Option.bind_some, back]
  have long : n ≤ n * (k + 1) := Nat.le_mul_of_pos_right n (Nat.succ_pos k)
  apply walk_shorter long
  rw [rounds n]
  rfl

theorem walk_past {n m : Nat} (there : walk next? n type = some t) (last : next? t = none) (past : n < m) :
    walk next? m type = none := by
  obtain ⟨more, rfl⟩ := Nat.exists_eq_add_of_lt past
  rw [Nat.add_assoc, walk_add, there, Option.bind_some, walk_last last]

end Walk

/-- What is refused is a walk of more than 64 steps: one that comes back to a type, and none that ends
before. -/
structure Limits (next? : UInt32 → Option UInt32) (type : UInt32) (refused : Prop) : Prop where
  exact : refused ↔ (walk next? 65 type).isSome = true
  cyclic : ∀ n k t, walk next? n type = some t → walk next? (k + 1) t = some t → refused
  shallow : ∀ n t, n ≤ 64 → walk next? n type = some t → next? t = none → ¬ refused

theorem limits_of_iff {next? : UInt32 → Option UInt32} {type : UInt32} {refused : Prop}
    (exact : refused ↔ (walk next? 65 type).isSome = true) : Limits next? type refused where
  exact := exact
  cyclic := by
    intro n k t there back
    apply exact.mpr
    have goes : (walk next? (n + 65) type).isSome = true := by
      rw [walk_add, there, Option.bind_some]
      exact walk_cycle back 65
    exact walk_shorter (Nat.le_add_left 65 n) goes
  shallow := by
    intro n t few there last refused
    have goes := exact.mp refused
    rw [walk_past there last (Nat.lt_succ_of_le few)] at goes
    cases goes

def TypeDef.nests : TypeDef → Bool
  | .array _ _ => true
  | .struct _ => true
  | _ => false

namespace Declarations

def sizedFrom? (d : Declarations) (type : UInt32) : Option UInt32 :=
  match d.types type with
  | some (.array element _) => if (d.arrayStride? type).isSome then none else some element
  | some (.struct members) => members.getLast?
  | _ => none

def element? (d : Declarations) (type : UInt32) : Option UInt32 :=
  match d.types type with
  | some (.array element _) => some element
  | _ => none

section Refused

variable {d : Declarations} {type t : UInt32}

theorem orOverflow_not_tooDeep (o : Option UInt32) : orOverflow type o ≠ .error (.typeTooDeep t) := by
  cases o <;> simp [orOverflow]

/-- A size that is computed from another type's is refused with it, whatever overflows behind. -/
theorem sized_next {inner : UInt32} (next : d.sizedFrom? type = some inner)
    (member : Option (UInt32 × UInt32)) (levels : Nat) :
    ∃ (member' : Option (UInt32 × UInt32)) (finish : UInt32 → Option UInt32),
      d.sized member type (levels + 1) =
        match d.sized member' inner levels with
        | .error e => .error e
        | .ok size => orOverflow type (finish size) := by
  unfold sizedFrom? at next
  rw [sized]
  split at next
  · rename_i element length array
    rw [array]
    split at next
    · cases next
    · rename_i packed
      cases next
      rw [arrayStride?, Option.not_isSome_iff_eq_none] at packed
      dsimp only
      rw [packed]
      exact ⟨member, fun size => checkedMul size length, rfl⟩
  · rename_i members struct
    rw [struct]
    dsimp only
    rw [next]
    exact ⟨_, fun size => checkedAdd _ size, rfl⟩
  · cases next

theorem sized_last (last : d.sizedFrom? type = none) (member : Option (UInt32 × UInt32)) (levels : Nat) :
    ∃ size, d.sized member type (levels + 1) = orOverflow type size := by
  unfold sizedFrom? at last
  rw [sized]
  cases found : d.types type with
  | none => exact ⟨some 0, rfl⟩
  | some u =>
    rw [found] at last
    cases u with
    | vector component count => exact ⟨_, rfl⟩
    | matrix column columns => exact ⟨_, rfl⟩
    | array element length =>
      dsimp only at last ⊢
      cases strided : (d.decorations type).bind (·.arrayStride) with
      | none => simp [arrayStride?, strided] at last
      | some stride => exact ⟨_, rfl⟩
    | struct members =>
      dsimp only at last ⊢
      rw [last]
      exact ⟨some 0, rfl⟩
    | bool => exact ⟨some _, rfl⟩
    | int width => exact ⟨some _, rfl⟩
    | float width => exact ⟨some _, rfl⟩
    | _ => exact ⟨some 0, rfl⟩

theorem sized_tooDeep_iff (member : Option (UInt32 × UInt32)) (type : UInt32) (levels : Nat) :
    d.sized member type levels = .error (.typeTooDeep t) ↔ walk d.sizedFrom? levels type = some t := by
  induction levels generalizing member type with
  | zero => simp [sized, walk]
  | succ levels ih =>
    cases next : d.sizedFrom? type with
    | none =>
      obtain ⟨size, run⟩ := sized_last next member levels
      rw [walk_last next, run]
      simpa using orOverflow_not_tooDeep size
    | some inner =>
      obtain ⟨member', finish, run⟩ := sized_next next member levels
      rw [walk_next next, ← ih member' inner, run]
      cases d.sized member' inner levels with
      | error e => rfl
      | ok size => simpa using orOverflow_not_tooDeep (finish size)

theorem element?_eq_some {element : UInt32} (next : d.element? type = some element) :
    ∃ length, d.types type = some (.array element length) := by
  unfold element? at next
  cases found : d.types type with
  | none =>
    rw [found] at next
    cases next
  | some u =>
    rw [found] at next
    cases u with
    | array inner length =>
      cases next
      exact ⟨length, rfl⟩
    | _ => cases next

theorem unwrapped_next {element : UInt32} (next : d.element? type = some element) (whole : UInt32)
    (levels : Nat) : d.unwrapped whole type (levels + 1) = d.unwrapped whole element levels := by
  obtain ⟨length, array⟩ := element?_eq_some next
  rw [unwrapped, array]

theorem unwrapped_last (last : d.element? type = none) (whole : UInt32) (levels : Nat) :
    d.unwrapped whole type (levels + 1) = .ok type := by
  unfold element? at last
  rw [unwrapped]
  cases found : d.types type with
  | none => rfl
  | some u =>
    rw [found] at last
    cases u with
    | array inner length => cases last
    | _ => rfl

theorem unwrapped_tooDeep_iff (whole type : UInt32) (levels : Nat) :
    d.unwrapped whole type levels = .error (.typeTooDeep t) ↔
      whole = t ∧ (walk d.element? levels type).isSome = true := by
  induction levels generalizing type with
  | zero => simp [unwrapped, walk]
  | succ levels ih =>
    cases next : d.element? type with
    | none => simp [walk_last next, unwrapped_last next]
    | some element => rw [walk_next next, unwrapped_next next, ih]

end Refused

section Alike

variable {d d' : Declarations} {type : UInt32}

/-- Only what the walk comes to, and the scalars and vectors there are, decide a size. -/
theorem sized_congr (decorations : d'.decorations = d.decorations)
    (memberDecorations : d'.memberDecorations = d.memberDecorations)
    (scalars : d'.scalarSize = d.scalarSize) (vectors : d'.vectorShape = d.vectorShape)
    (member : Option (UInt32 × UInt32)) (levels : Nat)
    (near : ∀ n t, n < levels → walk d.sizedFrom? n type = some t → d'.types t = d.types t) :
    d'.sized member type levels = d.sized member type levels := by
  induction levels generalizing member type with
  | zero => rfl
  | succ levels ih =>
    have here : d'.types type = d.types type := near 0 type (Nat.succ_pos levels) rfl
    have inside : ∀ inner, d.sizedFrom? type = some inner → ∀ member',
        d'.sized member' inner levels = d.sized member' inner levels := by
      intro inner next member'
      apply ih
      intro n t less there
      exact near (n + 1) t (Nat.succ_lt_succ less) ((walk_next next n).trans there)
    have matrices : d'.matrixSize = d.matrixSize := by
      unfold matrixSize
      rw [vectors]
    rw [sized, sized, here, decorations, memberDecorations, scalars, matrices]
    cases found : d.types type with
    | none => rfl
    | some u =>
      cases u with
      | array element length =>
        dsimp only
        cases strided : (d.decorations type).bind (·.arrayStride) with
        | some stride => rfl
        | none =>
          dsimp only
          rw [inside element (by simp [sizedFrom?, found, arrayStride?, strided])]
      | struct members =>
        dsimp only
        cases last : members.getLast? with
        | none => rfl
        | some lastType =>
          dsimp only
          rw [inside lastType (by simp [sizedFrom?, found, last])]
      | _ => rfl

theorem unwrapped_congr (whole : UInt32) (levels : Nat)
    (near : ∀ n t, n < levels → walk d.element? n type = some t → d'.types t = d.types t) :
    d'.unwrapped whole type levels = d.unwrapped whole type levels := by
  induction levels generalizing type with
  | zero => rfl
  | succ levels ih =>
    have here : d'.types type = d.types type := near 0 type (Nat.succ_pos levels) rfl
    have same : d'.element? type = d.element? type := by
      unfold element?
      rw [here]
    cases next : d.element? type with
    | none => rw [unwrapped_last next, unwrapped_last (same.trans next)]
    | some element =>
      rw [unwrapped_next next, unwrapped_next (same.trans next)]
      apply ih
      intro n t less there
      exact near (n + 1) t (Nat.succ_lt_succ less) ((walk_next next n).trans there)

def SameScalars (types types' : Table UInt32 TypeDef) : Prop :=
  ∀ t, types' t = types t ∨
    (∃ u, types t = some u ∧ u.nests = true) ∧ ∃ u, types' t = some u ∧ u.nests = true

theorem scalarSize_of_nests {t : UInt32} {u : TypeDef} (found : d.types t = some u)
    (nests : u.nests = true) : d.scalarSize t = 0 := by
  unfold scalarSize
  rw [found]
  cases u with
  | array element length => rfl
  | struct members => rfl
  | _ => cases nests

theorem SameScalars.scalarSize (same : SameScalars d.types d'.types) : d'.scalarSize = d.scalarSize := by
  funext t
  rcases same t with eq | ⟨⟨u, found, nests⟩, u', found', nests'⟩
  · unfold Declarations.scalarSize
    rw [eq]
  · rw [scalarSize_of_nests found nests, scalarSize_of_nests found' nests']

theorem vectorShape_of_nests {t : UInt32} {u : TypeDef} (found : d.types t = some u)
    (nests : u.nests = true) : d.vectorShape t = (0, 1) := by
  unfold vectorShape
  rw [scalarSize_of_nests found nests, found]
  cases u with
  | array element length => rfl
  | struct members => rfl
  | _ => cases nests

theorem SameScalars.vectorShape (same : SameScalars d.types d'.types) :
    d'.vectorShape = d.vectorShape := by
  funext t
  rcases same t with eq | ⟨⟨u, found, nests⟩, u', found', nests'⟩
  · unfold Declarations.vectorShape
    rw [eq, same.scalarSize]
  · rw [vectorShape_of_nests found nests, vectorShape_of_nests found' nests']

end Alike

/-- Sizing and unwrapping are refused exactly behind 64 steps, whatever overflows on the way, and depend on
no array or struct that lies behind the 65th type. -/
theorem nesting_limited (d : Declarations) (type : UInt32) :
    (∀ member, Limits d.sizedFrom? type (∃ t, d.declaredSize member type = .error (.typeTooDeep t))) ∧
    Limits d.element? type (∃ t, d.baseType type = .error (.typeTooDeep t)) ∧
    (∀ member t, d.declaredSize member type = .error (.typeTooDeep t) ↔
      walk d.sizedFrom? 65 type = some t) ∧
    (∀ t, d.baseType type = .error (.typeTooDeep t) ↔
      type = t ∧ (walk d.element? 65 type).isSome = true) ∧
    (∀ types, SameScalars d.types types →
      (∀ n t, n ≤ 64 → walk d.sizedFrom? n type = some t → types t = d.types t) →
        ∀ member, { d with types }.declaredSize member type = d.declaredSize member type) ∧
    ∀ types, (∀ n t, n ≤ 64 → walk d.element? n type = some t → types t = d.types t) →
      { d with types }.baseType type = d.baseType type := by
  have sizing : ∀ member t, d.declaredSize member type = .error (.typeTooDeep t) ↔
      walk d.sizedFrom? 65 type = some t := fun member t => sized_tooDeep_iff member type 65
  have unwrapping : ∀ t, d.baseType type = .error (.typeTooDeep t) ↔
      type = t ∧ (walk d.element? 65 type).isSome = true := fun t => unwrapped_tooDeep_iff type type 65
  refine ⟨?_, ?_, sizing, unwrapping, ?_, ?_⟩
  · intro member
    apply limits_of_iff
    rw [Option.isSome_iff_exists]
    exact exists_congr (sizing member)
  · apply limits_of_iff
    constructor
    · rintro ⟨t, tooDeep⟩
      exact ((unwrapping t).mp tooDeep).2
    · intro goes
      exact ⟨type, (unwrapping type).mpr ⟨rfl, goes⟩⟩
  · intro types same near member
    have decorations : { d with types }.decorations = d.decorations := rfl
    have scalars : { d with types }.scalarSize = d.scalarSize := SameScalars.scalarSize same
    have vectors : { d with types }.vectorShape = d.vectorShape := SameScalars.vectorShape same
    apply sized_congr decorations rfl scalars vectors
    intro n t less
    exact near n t (Nat.le_of_lt_succ less)
  · intro types near
    apply unwrapped_congr
    intro n t less
    exact near n t (Nat.le_of_lt_succ less)

/-- So many arrays around a scalar, each too long for its size to fit into a word, and an array of itself. -/
def towers (n : Nat) : List Instruction :=
  [⟨22, [1, 32]⟩, ⟨43, [100, 101, 4294967295]⟩] ++
    (List.range n).map (fun k => ⟨28, [.ofNat (k + 2), .ofNat (k + 1), 101]⟩) ++ [⟨28, [200, 200, 101]⟩]

theorem nesting_limited_towers :
    ∃ words d, parse words = .ok d ∧
      (walk d.sizedFrom? 64 65 = some 1 ∧ ¬ ∃ t, d.declaredSize none 65 = .error (.typeTooDeep t)) ∧
      d.declaredSize none 66 = .error (.typeTooDeep 1) ∧
      (walk d.sizedFrom? 1 200 = some 200 ∧ ∃ t, d.declaredSize none 200 = .error (.typeTooDeep t)) ∧
      (walk d.element? 64 65 = some 1 ∧ ¬ ∃ t, d.baseType 65 = .error (.typeTooDeep t)) ∧
      d.baseType 66 = .error (.typeTooDeep 66) ∧ ∃ t, d.baseType 200 = .error (.typeTooDeep t) := by
  let header : List UInt32 := [magic, 0x10000, 0, 201, 0]
  let d : Declarations := (towers 65).foldl Declarations.add {}
  have parsed : parse (header ++ (towers 65).flatMap Instruction.encode) = .ok d :=
    parse_encode ⟨by decide, rfl⟩ rfl (by decide) (by decide)
  have whole : walk d.sizedFrom? 64 65 = some 1 := by decide +kernel
  have longer : walk d.sizedFrom? 65 66 = some 1 := by decide +kernel
  have itself : walk d.sizedFrom? 1 200 = some 200 := by decide +kernel
  have wraps : walk d.element? 64 65 = some 1 := by decide +kernel
  have wrapsMore : (walk d.element? 65 66).isSome = true := by decide +kernel
  have wrapsItself : walk d.element? 1 200 = some 200 := by decide +kernel
  obtain ⟨sizing, unwrapping, _⟩ := nesting_limited d 65
  obtain ⟨_, _, tooDeep, tooManyArrays, _⟩ := nesting_limited d 66
  obtain ⟨cyclic, cyclicArrays, _⟩ := nesting_limited d 200
  refine ⟨_, d, parsed, ⟨whole, ?_⟩, ?_, ⟨itself, ?_⟩, ⟨wraps, ?_⟩, ?_, ?_⟩
  · exact (sizing none).shallow 64 1 (Nat.le_refl 64) whole (by decide +kernel)
  · exact (tooDeep none 1).mpr longer
  · exact (cyclic none).cyclic 0 0 200 rfl itself
  · exact unwrapping.shallow 64 1 (Nat.le_refl 64) wraps (by decide +kernel)
  · exact (tooManyArrays 66).mpr ⟨rfl, wrapsMore⟩
  · exact cyclicArrays.cyclic 0 0 200 rfl wrapsItself

end Declarations
end SceneGpu.Bytecode
