import SceneGpu.Glsl.Layout
import SceneGpu.Proofs.Text.Search
/-!
The rules for the fate of a layout clause, told by the words of its declaration and by its keys.
-/
namespace SceneGpu.Glsl

def SamplerWord (w : List Char) : Prop := "sampler".toList <:+: w

def VectorWord (w : List Char) : Prop :=
  ∃ size ∈ ["vec2", "vec3", "vec4"],
    w = size.toList ∨ ∃ kind ∈ ['i', 'u', 'b', 'd'], w = kind :: size.toList

def Directed (head : List (List Char)) : Prop := "in".toList ∈ head ∨ "out".toList ∈ head

def Demoted (head : List (List Char)) : Prop := ∃ w ∈ head, SamplerWord w ∨ VectorWord w

def Bound (keys : List (List Char)) : Prop := "set".toList ∈ keys ∨ "binding".toList ∈ keys

inductive Ruled (head keys : List (List Char)) : Fate → Prop
  | directed (directed : Directed head) : Ruled head keys .keep
  | demoted (other : ¬ Directed head) (demoted : Demoted head) : Ruled head keys .remove
  | bound (other : ¬ Directed head) (plain : ¬ Demoted head) (bound : Bound keys) :
      Ruled head keys .replace
  | rest (other : ¬ Directed head) (plain : ¬ Demoted head) (unbound : ¬ Bound keys) :
      Ruled head keys .keep

theorem isSamplerType_iff {w : List Char} : isSamplerType w = true ↔ SamplerWord w :=
  Text.occursIn_iff

theorem isVectorType_iff {w : List Char} : isVectorType w = true ↔ VectorWord w := by
  have sizes (v : List Char) : v ∈ ["vec2".toList, "vec3".toList, "vec4".toList] ↔
      ∃ size ∈ ["vec2", "vec3", "vec4"], v = size.toList := by simp
  unfold VectorWord
  cases w with
  | nil => simp [isVectorType]
  | cons c rest =>
    simp only [isVectorType, Bool.or_eq_true, Bool.and_eq_true, decide_eq_true_eq, sizes]
    constructor
    · rintro (⟨size, mem, eq⟩ | ⟨kind, size, mem, rfl⟩)
      · exact ⟨size, mem, .inl eq⟩
      · exact ⟨size, mem, .inr ⟨c, kind, rfl⟩⟩
    · rintro ⟨size, mem, eq | ⟨kind, isKind, eq⟩⟩
      · exact .inl ⟨size, mem, eq⟩
      · cases eq
        exact .inr ⟨isKind, size, mem, rfl⟩

theorem any_two_iff {l : List (List Char)} {a b : List Char} :
    (l.any fun w => w = a || w = b) = true ↔ a ∈ l ∨ b ∈ l := by
  simp only [List.any_eq_true, Bool.or_eq_true, decide_eq_true_eq]
  constructor
  · rintro ⟨w, mem, rfl | rfl⟩
    · exact .inl mem
    · exact .inr mem
  · rintro (mem | mem)
    · exact ⟨a, mem, .inl rfl⟩
    · exact ⟨b, mem, .inr rfl⟩

theorem demoted_iff {head : List (List Char)} :
    (head.any fun w => isSamplerType w || isVectorType w) = true ↔ Demoted head := by
  simp only [List.any_eq_true, Bool.or_eq_true, isSamplerType_iff, isVectorType_iff]
  rfl

theorem ruled_classify (head keys : List (List Char)) : Ruled head keys (classify head keys) := by
  unfold classify
  split
  · rename_i io
    exact .directed (any_two_iff.mp io)
  rename_i io
  have other : ¬ Directed head := fun directed => io (any_two_iff.mpr directed)
  split
  · rename_i types
    exact .demoted other (demoted_iff.mp types)
  rename_i types
  have plain : ¬ Demoted head := fun demoted => types (demoted_iff.mpr demoted)
  split
  · rename_i bound
    exact .bound other plain (any_two_iff.mp bound)
  · rename_i bound
    exact .rest other plain fun isBound => bound (any_two_iff.mpr isBound)

/-- The rules leave nothing open. -/
theorem Ruled.classify_eq {head keys : List (List Char)} {fate : Fate}
    (ruled : Ruled head keys fate) : classify head keys = fate := by
  unfold classify
  cases ruled with
  | directed directed => rw [if_pos (any_two_iff.mpr directed)]
  | demoted other demoted =>
    rw [if_neg fun io => other (any_two_iff.mp io), if_pos (demoted_iff.mpr demoted)]
  | bound other plain bound =>
    rw [if_neg fun io => other (any_two_iff.mp io), if_neg fun types => plain (demoted_iff.mp types),
      if_pos (any_two_iff.mpr bound)]
  | rest other plain unbound =>
    rw [if_neg fun io => other (any_two_iff.mp io), if_neg fun types => plain (demoted_iff.mp types),
      if_neg fun isBound => unbound (any_two_iff.mp isBound)]

theorem ruled_iff {head keys : List (List Char)} {fate : Fate} :
    Ruled head keys fate ↔ classify head keys = fate := by
  constructor
  · exact Ruled.classify_eq
  · intro eq
    rw [← eq]
    exact ruled_classify head keys

theorem kept_iff {head keys : List (List Char)} :
    classify head keys = .keep ↔ Directed head ∨ (¬ Demoted head ∧ ¬ Bound keys) := by
  rw [← ruled_iff]
  constructor
  · intro ruled
    cases ruled with
    | directed directed => exact .inl directed
    | rest other plain unbound => exact .inr ⟨plain, unbound⟩
  · rintro (directed | ⟨plain, unbound⟩)
    · exact .directed directed
    · by_cases directed : Directed head
      · exact .directed directed
      · exact .rest directed plain unbound

end SceneGpu.Glsl
