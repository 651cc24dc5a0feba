import Mathlib.Data.List.Nodup
import SceneGpu.Pipeline.Layout
import SceneGpu.Proofs.Collection.Sequence
/-!
The names of the sets that a pipeline binds, and the uniform buffers among its specs. Names are told
apart by the first spec that carries them; its set index tells the order, and its place decides among
equal ones.
-/
namespace SceneGpu

/-- The name under which a spec's set is known: its own for a uniform buffer, its key for textures. -/
inductive Carries (e : ShaderModule × String × Spec) : String → Prop
  | uniform (kind : e.2.2.kind = .uniformBuffer) : Carries e e.2.2.name
  | textures (kind : e.2.2.kind = .inputTextures) : Carries e e.2.1

theorem carries_iff {e : ShaderModule × String × Spec} {name : String} :
    Carries e name ↔ setName e = name := by
  unfold setName
  constructor
  · rintro (kind | kind)
    · rw [kind]
    · rw [kind]
  · rintro rfl
    cases kind : e.2.2.kind with
    | uniformBuffer => exact .uniform kind
    | inputTextures => exact .textures kind

structure FirstCarrier (modules : List ShaderModule) (name : String) (place : Nat)
    (e : ShaderModule × String × Spec) : Prop where
  here : (specsOf modules)[place]? = some e
  carries : Carries e name
  before : ∀ j f, j < place → (specsOf modules)[j]? = some f → ¬ Carries f name

theorem firstCarrier_iff {modules : List ShaderModule} {name : String} {place : Nat}
    {e : ShaderModule × String × Spec} :
    FirstCarrier modules name place e ↔ IsFirst setName (specsOf modules) name place e := by
  constructor
  · rintro ⟨here, carries, before⟩
    exact ⟨here, carries_iff.mp carries, fun j f less there same =>
      before j f less there (carries_iff.mpr same)⟩
  · rintro ⟨here, named, before⟩
    exact ⟨here, carries_iff.mpr named, fun j f less there carries =>
      before j f less there (carries_iff.mp carries)⟩

/-- The order of two names: by the set index of the first spec that carries each, then by its place. -/
def SetBefore (modules : List ShaderModule) (a b : String) : Prop :=
  ∃ i e j f, FirstCarrier modules a i e ∧ FirstCarrier modules b j f ∧
    (e.2.2.set < f.2.2.set ∨ (e.2.2.set = f.2.2.set ∧ i < j))

structure RequiredNames (modules : List ShaderModule) (names : List String) : Prop where
  distinct : names.Nodup
  carried : ∀ name, name ∈ names ↔ ∃ e ∈ specsOf modules, Carries e name
  order : names.Pairwise (SetBefore modules)

def declaredUniforms (modules : List ShaderModule) : List Spec :=
  ((specsOf modules).map (·.2.2)).filter (·.kind = .uniformBuffer)

structure FirstUniforms (modules : List ShaderModule) (specs : List Spec) : Prop where
  distinct : (specs.map Spec.name).Nodup
  first : ∀ s, s ∈ specs ↔ ∃ i, IsFirst Spec.name (declaredUniforms modules) s.name i s
  order : specs.Pairwise (Earlier Spec.name (declaredUniforms modules))

section Required

variable {modules : List ShaderModule}

theorem SetBefore.asymm {a b : String} (before : SetBefore modules a b) :
    ¬ SetBefore modules b a := by
  rintro ⟨j', f', i', e', second', first', back⟩
  obtain ⟨i, e, j, f, first, second, forth⟩ := before
  obtain ⟨rfl, rfl⟩ := (firstCarrier_iff.mp first).unique (firstCarrier_iff.mp first')
  obtain ⟨rfl, rfl⟩ := (firstCarrier_iff.mp second).unique (firstCarrier_iff.mp second')
  simp only [UInt32.lt_iff_toNat_lt, ← UInt32.toNat_inj] at forth back
  omega

def requiredSpecs (modules : List ShaderModule) : List (ShaderModule × String × Spec) :=
  sortOn (·.2.2.set.toNat) (firstsOn setName (specsOf modules))

theorem mem_requiredSpecs {e : ShaderModule × String × Spec} :
    e ∈ requiredSpecs modules ↔ ∃ i, FirstCarrier modules (setName e) i e := by
  unfold requiredSpecs
  rw [(sortOn_perm _ _).mem_iff, mem_firstsOn_iff]
  simp only [firstCarrier_iff]

theorem nodup_requiredSets (modules : List ShaderModule) : (requiredSets modules).Nodup :=
  ((sortOn_perm _ _).map setName).nodup_iff.mpr (nodup_firstsOn setName (specsOf modules))

theorem mem_requiredSets {name : String} :
    name ∈ requiredSets modules ↔ ∃ e ∈ specsOf modules, Carries e name := by
  change name ∈ (requiredSpecs modules).map setName ↔ _
  rw [requiredSpecs, ((sortOn_perm _ _).map setName).mem_iff, mem_map_firstsOn, List.mem_map]
  simp only [carries_iff]

theorem requiredSets_order (modules : List ShaderModule) :
    (requiredSets modules).Pairwise (SetBefore modules) := by
  refine List.pairwise_map.mpr ?_
  have ranked := sortOn_ranked (fun e : ShaderModule × String × Spec => e.2.2.set.toNat)
    (firstsOn_earlier setName (specsOf modules))
  refine ranked.imp_of_mem ?_
  intro e f mem mem' ranks
  rcases ranks with less | ⟨same, i, j, first, first', less⟩
  · obtain ⟨i, first⟩ := mem_requiredSpecs.mp mem
    obtain ⟨j, first'⟩ := mem_requiredSpecs.mp mem'
    exact ⟨i, e, j, f, first, first', .inl (UInt32.lt_iff_toNat_lt.mpr less)⟩
  · exact ⟨i, e, j, f, firstCarrier_iff.mpr first, firstCarrier_iff.mpr first',
      .inr ⟨UInt32.toNat_inj.mp same, less⟩⟩

theorem uniformSpecs_eq (modules : List ShaderModule) :
    uniformSpecs modules = firstsOn Spec.name (declaredUniforms modules) := by
  have same : modules.flatMap (·.specs.uniformBuffers) = declaredUniforms modules := by
    simp only [declaredUniforms, specsOf, List.map_flatMap, List.filter_flatMap, List.map_map]
    rfl
  rw [uniformSpecs, same]

end Required

/-- There is one list of the required names in their order, and one of the first uniform buffers. -/
theorem requiredSets_uniformSpecs_first (modules : List ShaderModule) :
    (∀ names, RequiredNames modules names ↔ names = requiredSets modules) ∧
    ∀ specs, FirstUniforms modules specs ↔ specs = uniformSpecs modules := by
  have required : RequiredNames modules (requiredSets modules) :=
    ⟨nodup_requiredSets modules, fun _ => mem_requiredSets, requiredSets_order modules⟩
  have uniforms : FirstUniforms modules (uniformSpecs modules) := by
    rw [uniformSpecs_eq]
    exact ⟨nodup_firstsOn _ _, fun _ => mem_firstsOn_iff _, firstsOn_earlier _ _⟩
  constructor
  · intro names
    constructor
    · intro other
      refine eq_of_ordered (fun _ _ => SetBefore.asymm) other.order required.order ?_
      refine (List.perm_ext_iff_of_nodup other.distinct required.distinct).mpr ?_
      intro name
      rw [other.carried, required.carried]
    · rintro rfl
      exact required
  · intro specs
    constructor
    · intro other
      refine eq_of_ordered (fun _ _ => Earlier.asymm) other.order uniforms.order ?_
      have distinct := List.Nodup.of_map Spec.name other.distinct
      have distinct' := List.Nodup.of_map Spec.name uniforms.distinct
      refine (List.perm_ext_iff_of_nodup distinct distinct').mpr ?_
      intro s
      rw [other.first, uniforms.first]
    · rintro rfl
      exact uniforms

end SceneGpu
