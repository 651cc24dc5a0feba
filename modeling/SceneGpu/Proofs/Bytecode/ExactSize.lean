import SceneGpu.Bytecode.Size
import SceneGpu.Proofs.Bytecode.History
/-!
The sizes that the layout rules give over the natural numbers, with every product and sum on the way, and
that the sizes computed on words are those: exact where all results fit into a word, refused at the first
that does not.
-/
namespace SceneGpu.Bytecode

def plainSize? : Option TypeDef → Option Nat
  | none => some 0
  | some .bool => some 4
  | some (.int width) => some (width.toNat / 8)
  | some (.float width) => some (width.toNat / 8)
  | some .image => some 0
  | some .sampler => some 0
  | some .sampledImage => some 0
  | some .runtimeArray => some 0
  | some (.pointer _) => some 0
  | some (.struct members) => if members = [] then some 0 else none
  | some (.vector _ _) => none
  | some (.matrix _ _) => none
  | some (.array _ _) => none

namespace Declarations

variable (d : Declarations)

def exactScalar (type : UInt32) : Nat := (plainSize? (d.types type)).getD 0

def exactColumn (column : UInt32) : Nat × Nat :=
  match d.types column with
  | some (.vector component count) => (d.exactScalar component, count.toNat)
  | _ => (d.exactScalar column, 1)

def matrixStride? (member : Option (UInt32 × UInt32)) : Option UInt32 :=
  (member.bind d.memberDecorations).bind (·.matrixStride)

def rowMajor (member : Option (UInt32 × UInt32)) : Bool :=
  ((member.bind d.memberDecorations).map (·.rowMajor)).getD false

def arrayStride? (type : UInt32) : Option UInt32 := (d.decorations type).bind (·.arrayStride)

def offsetOf (type member : UInt32) : Nat :=
  (((d.memberDecorations (type, member)).bind (·.offset)).getD 0).toNat

/-- The layout rules: the nesting that a type's size goes down, the products and sums on the way, each
with the type it belongs to, and the size. -/
inductive Sizes : Option (UInt32 × UInt32) → UInt32 → Nat → List (UInt32 × Nat) → Nat → Prop
  | plain {member : Option (UInt32 × UInt32)} {type : UInt32} {size : Nat}
      (plain : plainSize? (d.types type) = some size) : Sizes member type 0 [] size
  | vector {member : Option (UInt32 × UInt32)} {type component count : UInt32}
      (vector : d.types type = some (.vector component count)) :
      Sizes member type 0 [(type, d.exactScalar component * count.toNat)]
        (d.exactScalar component * count.toNat)
  | rows {member : Option (UInt32 × UInt32)} {type column columns stride : UInt32}
      (matrix : d.types type = some (.matrix column columns))
      (strided : d.matrixStride? member = some stride) (order : d.rowMajor member = true) :
      Sizes member type 0 [(type, stride.toNat * (d.exactColumn column).2)]
        (stride.toNat * (d.exactColumn column).2)
  | columns {member : Option (UInt32 × UInt32)} {type column columns stride : UInt32}
      (matrix : d.types type = some (.matrix column columns))
      (strided : d.matrixStride? member = some stride) (order : d.rowMajor member = false) :
      Sizes member type 0 [(type, stride.toNat * columns.toNat)] (stride.toNat * columns.toNat)
  | packed {member : Option (UInt32 × UInt32)} {type column columns : UInt32}
      (matrix : d.types type = some (.matrix column columns))
      (packed : d.matrixStride? member = none) :
      Sizes member type 0
        [(type, (d.exactColumn column).1 * (d.exactColumn column).2),
         (type, (d.exactColumn column).1 * (d.exactColumn column).2 * columns.toNat)]
        ((d.exactColumn column).1 * (d.exactColumn column).2 * columns.toNat)
  | strided {member : Option (UInt32 × UInt32)} {type element length stride : UInt32}
      (array : d.types type = some (.array element length))
      (strided : d.arrayStride? type = some stride) :
      Sizes member type 0 [(type, stride.toNat * length.toNat)] (stride.toNat * length.toNat)
  | array {member : Option (UInt32 × UInt32)} {type element length : UInt32} {nesting : Nat}
      {results : List (UInt32 × Nat)} {size : Nat}
      (array : d.types type = some (.array element length)) (packed : d.arrayStride? type = none)
      (inner : Sizes member element nesting results size) :
      Sizes member type (nesting + 1) (results ++ [(type, size * length.toNat)])
        (size * length.toNat)
  | struct {member : Option (UInt32 × UInt32)} {type last lastType : UInt32} {front : List UInt32}
      {nesting : Nat} {results : List (UInt32 × Nat)} {size : Nat}
      (struct : d.types type = some (.struct (front ++ [lastType]))) (place : last.toNat = front.length)
      (inner : Sizes (some (type, last)) lastType nesting results size) :
      Sizes member type (nesting + 1) (results ++ [(type, d.offsetOf type last + size)])
        (d.offsetOf type last + size)

variable {d} {member : Option (UInt32 × UInt32)} {type : UInt32} {nesting : Nat}
  {results : List (UInt32 × Nat)} {size : Nat}

theorem Sizes.unique (sizes : d.Sizes member type nesting results size) :
    ∀ {nesting' results' size'}, d.Sizes member type nesting' results' size' →
      nesting = nesting' ∧ results = results' ∧ size = size' := by
  induction sizes with
  | array array packed _ ih =>
    intro _ _ _ other
    cases other with
    | array array' _ inner =>
      cases array.symm.trans array'
      obtain ⟨rfl, rfl, rfl⟩ := ih inner
      exact ⟨rfl, rfl, rfl⟩
    | _ => simp_all [plainSize?]
  | @struct _ _ last _ _ _ _ _ struct place _ ih =>
    intro _ _ _ other
    cases other with
    | @struct _ _ last' _ _ _ _ _ struct' place' inner =>
      have same := struct.symm.trans struct'
      rw [Option.some.injEq, TypeDef.struct.injEq] at same
      obtain ⟨rfl, lasts⟩ := List.append_inj' same rfl
      cases lasts
      obtain rfl : last = last' := UInt32.toNat_inj.mp (place.trans place'.symm)
      obtain ⟨rfl, rfl, rfl⟩ := ih inner
      exact ⟨rfl, rfl, rfl⟩
    | _ => simp_all [plainSize?]
  | _ =>
    intro _ _ _ other
    cases other <;> simp_all [plainSize?]

theorem scalarSize_toNat (d : Declarations) (type : UInt32) :
    (d.scalarSize type).toNat = d.exactScalar type := by
  unfold scalarSize exactScalar
  cases d.types type with
  | none => rfl
  | some t =>
    cases t with
    | struct members => cases members <;> rfl
    | _ => rfl

theorem vectorShape_toNat (d : Declarations) (column : UInt32) :
    ((d.vectorShape column).1.toNat, (d.vectorShape column).2.toNat) = d.exactColumn column := by
  unfold vectorShape exactColumn
  cases d.types column with
  | none => rw [scalarSize_toNat]; rfl
  | some t => cases t <;> simp [scalarSize_toNat]

end Declarations

/-- The first result that does not fit into a word, with the type it belongs to. -/
def firstExcess (results : List (UInt32 × Nat)) : Option (UInt32 × Nat) :=
  results.find? fun r => 2 ^ 32 ≤ r.2

def settle (results : List (UInt32 × Nat)) (size : Nat) : Except Fault UInt32 :=
  match firstExcess results with
  | none => .ok (UInt32.ofNat size)
  | some r => .error (.sizeOverflow r.1)

theorem firstExcess_eq_none {results : List (UInt32 × Nat)} :
    firstExcess results = none ↔ ∀ r ∈ results, r.2 < 2 ^ 32 := by
  simp [firstExcess]

def word? (n : Nat) : Option UInt32 := if n < 2 ^ 32 then some (UInt32.ofNat n) else none

theorem checkedMul_eq (a b : UInt32) : checkedMul a b = word? (a.toNat * b.toNat) := by
  unfold checkedMul word?
  rw [UInt32.ofNat_mul, UInt32.ofNat_toNat, UInt32.ofNat_toNat]
  rfl

theorem checkedAdd_eq (a b : UInt32) : checkedAdd a b = word? (a.toNat + b.toNat) := by
  unfold checkedAdd word?
  rw [UInt32.ofNat_add, UInt32.ofNat_toNat, UInt32.ofNat_toNat]
  rfl

theorem orOverflow_word (type : UInt32) (n : Nat) : orOverflow type (word? n) = settle [(type, n)] n := by
  unfold word? settle firstExcess
  by_cases fits : n < 2 ^ 32
  · rw [if_pos fits, List.find?_cons_of_neg (by simpa using fits), List.find?_nil]
    rfl
  · rw [if_neg fits, List.find?_cons_of_pos (by simpa using fits)]
    rfl

theorem settle_ok_iff {results : List (UInt32 × Nat)} {size : Nat} {n : UInt32} :
    settle results size = .ok n ↔ firstExcess results = none ∧ UInt32.ofNat size = n := by
  unfold settle
  cases firstExcess results <;> simp

theorem settle_overflow_iff {results : List (UInt32 × Nat)} {size : Nat} {type : UInt32} :
    settle results size = .error (.sizeOverflow type) ↔
      ∃ n, firstExcess results = some (type, n) := by
  unfold settle
  cases firstExcess results with
  | none => simp
  | some r => simp [Prod.ext_iff]

theorem settle_concat (type : UInt32) (results : List (UInt32 × Nat)) (size n : Nat) :
    settle (results ++ [(type, n)]) n =
      match settle results size with
      | .error e => .error e
      | .ok _ => settle [(type, n)] n := by
  unfold settle firstExcess
  rw [List.find?_append]
  cases results.find? fun r => decide (2 ^ 32 ≤ r.2) <;> rfl

theorem orOverflow_bind (type : UInt32) (x : Option UInt32) (f : UInt32 → Option UInt32) :
    orOverflow type (x.bind f) =
      match orOverflow type x with
      | .error e => .error e
      | .ok w => orOverflow type (f w) := by
  cases x <;> rfl

theorem settle_then {f : UInt32 → Option UInt32} {results : List (UInt32 × Nat)} {size n : Nat}
    (type : UInt32) (fits : firstExcess results = none → size < 2 ^ 32)
    (next : size < 2 ^ 32 → f (UInt32.ofNat size) = word? n) :
    (match settle results size with
      | .error e => .error e
      | .ok w => orOverflow type (f w)) = settle (results ++ [(type, n)]) n := by
  rw [settle_concat type results size]
  cases first : firstExcess results with
  | none =>
    have settled : settle results size = .ok (UInt32.ofNat size) := by rw [settle, first]
    rw [settled]
    dsimp only
    rw [next (fits first), orOverflow_word]
  | some r =>
    have settled : settle results size = .error (.sizeOverflow r.1) := by rw [settle, first]
    rw [settled]

theorem firstExcess_concat (type : UInt32) (results : List (UInt32 × Nat)) (n : Nat) :
    firstExcess (results ++ [(type, n)]) = none ↔ firstExcess results = none ∧ n < 2 ^ 32 := by
  simp [firstExcess, List.find?_append]

namespace Declarations

variable {d : Declarations} {member : Option (UInt32 × UInt32)} {type : UInt32} {nesting : Nat}
  {results : List (UInt32 × Nat)} {size : Nat}

theorem exactScalar_lt (d : Declarations) (type : UInt32) : d.exactScalar type < 2 ^ 32 := by
  rw [← scalarSize_toNat]
  exact UInt32.toNat_lt _

theorem Sizes.fits (sizes : d.Sizes member type nesting results size)
    (all : firstExcess results = none) : size < 2 ^ 32 := by
  cases sizes with
  | plain plain =>
    have scalar := d.exactScalar_lt type
    rw [exactScalar, plain] at scalar
    exact scalar
  | array _ _ inner => exact ((firstExcess_concat _ _ _).mp all).2
  | struct _ _ inner => exact ((firstExcess_concat _ _ _).mp all).2
  | packed _ _ => exact firstExcess_eq_none.mp all _ (List.mem_cons_of_mem _ List.mem_cons_self)
  | _ => exact firstExcess_eq_none.mp all _ List.mem_cons_self

section Matrix

variable {column columns stride : UInt32}

theorem matrixSize_strided (strided : d.matrixStride? member = some stride) :
    d.matrixSize column columns (member.bind d.memberDecorations) =
      word? (stride.toNat *
        if d.rowMajor member then (d.exactColumn column).2 else columns.toNat) := by
  obtain ⟨found, decorated, has⟩ := Option.bind_eq_some_iff.mp strided
  have order : d.rowMajor member = found.rowMajor := by rw [rowMajor, decorated]; rfl
  have shape := d.vectorShape_toNat column
  unfold matrixSize
  rw [decorated, order, ← shape, Option.bind_some, has, Option.map_some]
  cases found.rowMajor with
  | true => exact checkedMul_eq stride _
  | false => exact checkedMul_eq stride columns

theorem matrixSize_packed (packed : d.matrixStride? member = none) :
    d.matrixSize column columns (member.bind d.memberDecorations) =
      (word? ((d.exactColumn column).1 * (d.exactColumn column).2)).bind fun s =>
        checkedMul s columns := by
  have shape := d.vectorShape_toNat column
  have bare : ((member.bind d.memberDecorations).bind fun x =>
      x.matrixStride.map fun s => (s, x.rowMajor)) = none := by
    rw [matrixStride?] at packed
    cases found : member.bind d.memberDecorations with
    | none => rfl
    | some x =>
      rw [found, Option.bind_some] at packed
      rw [Option.bind_some, packed, Option.map_none]
  unfold matrixSize
  rw [bare, ← shape, ← checkedMul_eq]

end Matrix

theorem sized_plain (plain : plainSize? (d.types type) = some size) (levels : Nat) :
    d.sized member type (levels + 1) = .ok (UInt32.ofNat size) := by
  have scalar : d.scalarSize type = UInt32.ofNat size := by
    have exact := d.scalarSize_toNat type
    rw [exactScalar, plain, Option.getD_some] at exact
    rw [← exact, UInt32.ofNat_toNat]
  rw [sized]
  cases found : d.types type with
  | none =>
    rw [found] at plain
    cases plain
    rfl
  | some t =>
    rw [found] at plain
    cases t with
    | bool | int _ | float _ => exact congrArg _ scalar
    | struct members =>
      cases members with
      | nil =>
        cases plain
        rfl
      | cons first rest => cases plain
    | vector _ _ | matrix _ _ | array _ _ => cases plain
    | image | sampler | sampledImage | runtimeArray | pointer _ =>
      cases plain
      rfl

theorem sized_of_sizes (sizes : d.Sizes member type nesting results size) {levels : Nat}
    (few : nesting ≤ levels) : d.sized member type (levels + 1) = settle results size := by
  induction sizes generalizing levels with
  | plain plain => exact sized_plain plain levels
  | vector vector =>
    rw [sized, vector]
    dsimp only
    rw [checkedMul_eq, scalarSize_toNat, orOverflow_word]
  | rows matrix strided order =>
    rw [sized, matrix]
    dsimp only
    rw [matrixSize_strided strided, if_pos order, orOverflow_word]
  | columns matrix strided order =>
    rw [sized, matrix]
    dsimp only
    rw [matrixSize_strided strided, if_neg (Bool.eq_false_iff.mp order), orOverflow_word]
  | packed matrix packed =>
    rw [sized, matrix]
    dsimp only
    rw [matrixSize_packed packed, orOverflow_bind, orOverflow_word]
    refine @settle_then _ [_] _ _ _ (fun one => firstExcess_eq_none.mp one _ List.mem_cons_self) ?_
    intro fits
    rw [checkedMul_eq, UInt32.toNat_ofNat_of_lt' fits]
  | strided array strided =>
    rw [arrayStride?] at strided
    rw [sized, array]
    dsimp only
    rw [strided]
    dsimp only
    rw [checkedMul_eq, orOverflow_word]
  | array array packed inner ih =>
    obtain ⟨levels, rfl⟩ := Nat.exists_eq_add_one_of_ne_zero (Nat.ne_zero_of_lt few)
    rw [arrayStride?] at packed
    rw [sized, array]
    dsimp only
    rw [packed]
    dsimp only
    rw [ih (Nat.le_of_succ_le_succ few)]
    refine settle_then _ inner.fits ?_
    intro fits
    rw [checkedMul_eq, UInt32.toNat_ofNat_of_lt' fits]
  | @struct _ _ last _ _ _ _ _ struct place inner ih =>
    obtain ⟨levels, rfl⟩ := Nat.exists_eq_add_one_of_ne_zero (Nat.ne_zero_of_lt few)
    rw [sized, struct]
    dsimp only
    rw [List.getLast?_concat]
    dsimp only
    rw [List.length_append, List.length_singleton, Nat.add_sub_cancel, ← place, UInt32.ofNat_toNat,
      ih (Nat.le_of_succ_le_succ few)]
    refine settle_then _ inner.fits ?_
    intro fits
    rw [checkedAdd_eq, UInt32.toNat_ofNat_of_lt' fits]
    rfl

theorem exists_sizes (short : ∀ type members, d.types type = some (.struct members) →
      members.length < 2 ^ 32) (member : Option (UInt32 × UInt32)) (type : UInt32) (levels : Nat) :
    (∃ nesting results size, d.Sizes member type nesting results size ∧ nesting < levels) ∨
      ∃ t, d.sized member type levels = .error (.typeTooDeep t) := by
  induction levels generalizing member type with
  | zero => exact .inr ⟨type, rfl⟩
  | succ levels ih =>
    cases plain : plainSize? (d.types type) with
    | some size => exact .inl ⟨0, [], size, .plain plain, Nat.succ_pos levels⟩
    | none =>
      cases found : d.types type with
      | none =>
        rw [found] at plain
        cases plain
      | some t =>
        rw [found] at plain
        cases t with
        | vector component count => exact .inl ⟨0, _, _, .vector found, Nat.succ_pos levels⟩
        | matrix column columns =>
          cases strided : d.matrixStride? member with
          | none => exact .inl ⟨0, _, _, .packed found strided, Nat.succ_pos levels⟩
          | some stride =>
            cases order : d.rowMajor member with
            | true => exact .inl ⟨0, _, _, .rows found strided order, Nat.succ_pos levels⟩
            | false => exact .inl ⟨0, _, _, .columns found strided order, Nat.succ_pos levels⟩
        | array element length =>
          cases strided : d.arrayStride? type with
          | some stride => exact .inl ⟨0, _, _, .strided found strided, Nat.succ_pos levels⟩
          | none =>
            rcases ih member element with ⟨nesting, results, size, inner, less⟩ | ⟨t, deep⟩
            · exact .inl ⟨_, _, _, .array found strided inner, Nat.succ_lt_succ less⟩
            · refine .inr ⟨t, ?_⟩
              rw [arrayStride?] at strided
              rw [sized, found]
              dsimp only
              rw [strided]
              dsimp only
              rw [deep]
        | struct members =>
          cases members using List.reverseRecOn with
          | nil => cases plain
          | append_singleton front lastType =>
            have few := short type _ found
            rw [List.length_append, List.length_singleton] at few
            have place : (UInt32.ofNat front.length).toNat = front.length :=
              UInt32.toNat_ofNat_of_lt' (Nat.lt_of_succ_lt few)
            rcases ih (some (type, UInt32.ofNat front.length)) lastType with
              ⟨nesting, results, size, inner, less⟩ | ⟨t, deep⟩
            · exact .inl ⟨_, _, _, .struct found place inner, Nat.succ_lt_succ less⟩
            · refine .inr ⟨t, ?_⟩
              rw [sized, found]
              dsimp only
              rw [List.getLast?_concat]
              dsimp only
              rw [List.length_append, List.length_singleton, Nat.add_sub_cancel, deep]
        | _ => cases plain

theorem declaredSize_cases (short : ∀ type members, d.types type = some (.struct members) →
      members.length < 2 ^ 32) (member : Option (UInt32 × UInt32)) (type : UInt32) :
    (∃ nesting results size, d.Sizes member type nesting results size ∧ nesting ≤ maxTypeDepth ∧
        d.declaredSize member type = settle results size) ∨
      ∃ t, d.declaredSize member type = .error (.typeTooDeep t) := by
  rcases d.exists_sizes short member type (maxTypeDepth + 1) with
    ⟨nesting, results, size, sizes, less⟩ | deep
  · have few := Nat.le_of_lt_succ less
    exact .inl ⟨nesting, results, size, sizes, few, sized_of_sizes sizes few⟩
  · exact .inr deep

/-- The arithmetic on words is the one on numbers: a product or a sum is exact or refused, a scalar has
its exact size, and the number of a struct's last member is its place. -/
structure NothingWraps (d : Declarations) : Prop where
  product : ∀ a b, checkedMul a b = word? (a.toNat * b.toNat)
  sum : ∀ a b, checkedAdd a b = word? (a.toNat + b.toNat)
  scalar : ∀ type, (d.scalarSize type).toNat = d.exactScalar type
  last : ∀ type members, d.types type = some (.struct members) →
    (UInt32.ofNat (members.length - 1)).toNat = members.length - 1

theorem nothingWraps (short : ∀ type members, d.types type = some (.struct members) →
    members.length < 2 ^ 32) : d.NothingWraps where
  product := checkedMul_eq
  sum := checkedAdd_eq
  scalar := d.scalarSize_toNat
  last := by
    intro type members struct
    have few := short type members struct
    exact UInt32.toNat_ofNat_of_lt' (Nat.lt_of_le_of_lt (Nat.sub_le _ _) few)

/-- A declared size is the exact one. It is told exactly where the nesting is not too deep and every
product and sum fits into a word; the first that does not names the type that overflows. -/
theorem declaredSize_exact {words : List UInt32} {d : Declarations} (parsed : parse words = .ok d)
    (member : Option (UInt32 × UInt32)) (type : UInt32) :
    (∀ nesting results size nesting' results' size', d.Sizes member type nesting results size →
      d.Sizes member type nesting' results' size' →
        nesting = nesting' ∧ results = results' ∧ size = size') ∧
    (∀ n, d.declaredSize member type = .ok n ↔ ∃ nesting results,
      d.Sizes member type nesting results n.toNat ∧ nesting ≤ maxTypeDepth ∧
        ∀ r ∈ results, r.2 < 2 ^ 32) ∧
    (∀ t, d.declaredSize member type = .error (.sizeOverflow t) ↔ ∃ nesting results size n,
      d.Sizes member type nesting results size ∧ nesting ≤ maxTypeDepth ∧
        firstExcess results = some (t, n)) ∧
    (∀ nesting results size, d.Sizes member type nesting results size → nesting ≤ maxTypeDepth →
      (∀ r ∈ results, r.2 < 2 ^ 32) → ∃ n, d.declaredSize member type = .ok n ∧ n.toNat = size) ∧
    d.NothingWraps := by
  have short : ∀ type members, d.types type = some (.struct members) → members.length < 2 ^ 32 :=
    fun _ _ struct => Nat.lt_trans (struct_length_lt parsed struct) (by decide)
  have settles : ∀ {nesting results size}, d.Sizes member type nesting results size →
      nesting ≤ maxTypeDepth → d.declaredSize member type = settle results size :=
    fun sizes few => sized_of_sizes sizes few
  refine ⟨?_, ?_, ?_, ?_, nothingWraps short⟩
  · intro _ _ _ _ _ _ one other
    exact one.unique other
  · intro n
    constructor
    · intro ok
      rcases declaredSize_cases short member type with ⟨nesting, results, size, sizes, few, eq⟩ | ⟨t, eq⟩
      · obtain ⟨fit, same⟩ := settle_ok_iff.mp (eq.symm.trans ok)
        have exact := UInt32.toNat_ofNat_of_lt' (sizes.fits fit)
        rw [same] at exact
        exact ⟨nesting, results, exact ▸ sizes, few, firstExcess_eq_none.mp fit⟩
      · cases eq.symm.trans ok
    · rintro ⟨nesting, results, sizes, few, fit⟩
      rw [settles sizes few, settle_ok_iff]
      exact ⟨firstExcess_eq_none.mpr fit, UInt32.ofNat_toNat⟩
  · intro t
    constructor
    · intro fails
      rcases declaredSize_cases short member type with ⟨nesting, results, size, sizes, few, eq⟩ | ⟨t, eq⟩
      · obtain ⟨n, excess⟩ := settle_overflow_iff.mp (eq.symm.trans fails)
        exact ⟨nesting, results, size, n, sizes, few, excess⟩
      · cases eq.symm.trans fails
    · rintro ⟨nesting, results, size, n, sizes, few, excess⟩
      rw [settles sizes few, settle_overflow_iff]
      exact ⟨n, excess⟩
  · intro nesting results size sizes few fit
    have noExcess := firstExcess_eq_none.mpr fit
    refine ⟨UInt32.ofNat size, ?_, UInt32.toNat_ofNat_of_lt' (sizes.fits noExcess)⟩
    rw [settles sizes few, settle_ok_iff]
    exact ⟨noExcess, rfl⟩

/-- A struct that ends with an array of matrices, whose stride belongs to the struct's member, and an
array that no word can tell the size of. -/
def nested : List Instruction :=
  [⟨22, [1, 32]⟩, ⟨23, [2, 1, 4]⟩, ⟨24, [3, 2, 4]⟩, ⟨21, [4, 32, 0]⟩, ⟨43, [4, 5, 3]⟩,
   ⟨28, [6, 3, 5]⟩, ⟨30, [7, 2, 6]⟩, ⟨72, [7, 1, 35, 16]⟩, ⟨72, [7, 1, 7, 16]⟩,
   ⟨43, [4, 8, 4294967295]⟩, ⟨28, [9, 2, 8]⟩]

theorem declaredSize_exact_nested :
    ∃ words d, parse words = .ok d ∧
      (d.Sizes none 7 2 [(3, 64), (6, 192), (7, 208)] 208 ∧ d.declaredSize none 7 = .ok 208) ∧
      (d.Sizes none 9 1 [(2, 16), (9, 68719476720)] 68719476720 ∧
        d.declaredSize none 9 = .error (.sizeOverflow 9)) := by
  let header : List UInt32 := [magic, 0x10000, 0, 10, 0]
  let d : Declarations := nested.foldl Declarations.add {}
  have parsed : parse (header ++ nested.flatMap Instruction.encode) = .ok d :=
    parse_encode ⟨by decide, rfl⟩ rfl (by decide) (by decide)
  have columns : d.types 3 = some (.matrix 2 4) := rfl
  have stride : d.matrixStride? (some (7, 1)) = some 16 := rfl
  have matrices : d.types 6 = some (.array 3 3) := rfl
  have members : d.types 7 = some (.struct ([2] ++ [6])) := rfl
  have place : (1 : UInt32).toNat = [2].length := rfl
  have components : d.types 2 = some (.vector 1 4) := rfl
  have vectors : d.types 9 = some (.array 2 4294967295) := rfl
  have matrix : d.Sizes (some (7, 1)) 3 0 [(3, 64)] 64 := .columns columns stride rfl
  have packed : d.Sizes (some (7, 1)) 6 1 [(3, 64), (6, 192)] 192 := .array matrices rfl matrix
  have struct : d.Sizes none 7 2 [(3, 64), (6, 192), (7, 208)] 208 :=
    .struct members place packed
  have vector : d.Sizes none 2 0 [(2, 16)] 16 := .vector components
  have long : d.Sizes none 9 1 [(2, 16), (9, 68719476720)] 68719476720 :=
    .array vectors rfl vector
  refine ⟨_, d, parsed, ⟨struct, ?_⟩, long, ?_⟩
  · exact ((declaredSize_exact parsed none 7).2.1 208).mpr ⟨2, _, struct, by decide, by decide⟩
  · exact ((declaredSize_exact parsed none 9).2.2.1 9).mpr ⟨1, _, _, _, long, by decide, rfl⟩

end Declarations
end SceneGpu.Bytecode
