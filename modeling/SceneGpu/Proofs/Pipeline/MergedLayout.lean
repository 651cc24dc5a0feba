import Mathlib.Data.List.Induction
import Mathlib.Data.List.Sort
import SceneGpu.Pipeline.Layout
import SceneGpu.Proofs.Collection.SortedMap
/-!
The descriptor set layouts of a pipeline, told from the specs without the maps they are merged in: which
sets and bindings there are, and what each binding takes from the specs at its place. Where the specs at a
place agree on their kind, the order of the stages does not matter.
-/
namespace SceneGpu

theorem DescriptorType.code_inj {s t : DescriptorType} : s.code = t.code ↔ s = t := by
  cases s <;> cases t <;> decide

def Spec.PlacedAt (s : Spec) (set binding : UInt32) : Prop := s.set = set ∧ s.binding = binding

instance (s : Spec) (set binding : UInt32) : Decidable (s.PlacedAt set binding) :=
  inferInstanceAs (Decidable (_ ∧ _))

/-- The binding takes its type from the first spec at its place, and the stages from all modules that have
a spec of that type there. -/
structure LayoutBinding.Merges (modules : List ShaderModule) (set : UInt32) (b : LayoutBinding) : Prop where
  count : b.count = 1
  type : ∃ e, (specsOf modules).find? (fun e => e.2.2.PlacedAt set b.binding) = some e ∧
    b.type = e.2.2.kind.type.code
  stages : ∀ bit, b.stages.toNat.testBit bit = true ↔ ∃ m ∈ modules,
    m.stage.flag.toNat.testBit bit = true ∧
      ∃ e ∈ m.specs.entries, e.2.PlacedAt set b.binding ∧ e.2.kind.type.code = b.type

structure MergedLayout (modules : List ShaderModule) (layout : List (UInt32 × List LayoutBinding)) :
    Prop where
  ascending : (layout.map (·.1)).Pairwise (· < ·)
  sets : ∀ set, set ∈ layout.map (·.1) ↔ ∃ m ∈ modules, ∃ e ∈ m.specs.entries, e.2.set = set
  bindingsAscending : ∀ s ∈ layout, (s.2.map (·.binding)).Pairwise (· < ·)
  bindings : ∀ s ∈ layout, ∀ binding, binding ∈ s.2.map (·.binding) ↔
    ∃ m ∈ modules, ∃ e ∈ m.specs.entries, e.2.PlacedAt s.1 binding
  merged : ∀ s ∈ layout, ∀ b ∈ s.2, b.Merges modules s.1

/-- No two specs at one place differ in kind. -/
def KindsAgree (modules : List ShaderModule) : Prop :=
  ∀ m ∈ modules, ∀ e ∈ m.specs.entries, ∀ n ∈ modules, ∀ f ∈ n.specs.entries,
    f.2.PlacedAt e.2.set e.2.binding → f.2.kind = e.2.kind

theorem mem_specsOf {modules : List ShaderModule} {e : ShaderModule × String × Spec} :
    e ∈ specsOf modules ↔ e.1 ∈ modules ∧ e.2 ∈ e.1.specs.entries := by
  unfold specsOf
  rw [List.mem_flatMap]
  constructor
  · rintro ⟨m, here, mem⟩
    obtain ⟨f, found, rfl⟩ := List.mem_map.mp mem
    exact ⟨here, found⟩
  · rintro ⟨here, found⟩
    exact ⟨e.1, here, List.mem_map.mpr ⟨e.2, found, rfl⟩⟩

section Merging

def Declared.merge (e : ShaderModule × String × Spec) : Option Declared → Declared
  | none => ⟨e.2.2.kind.type, e.1.stage.flag⟩
  | some p =>
    if p.type = e.2.2.kind.type then { p with stages := p.stages ||| e.1.stage.flag } else p

def Merged.declared? (acc : Merged) (set binding : UInt32) : Option Declared :=
  (acc.places.get? set).bind (·.get? binding)

theorem mergeSpec_get? (e : ShaderModule × String × Spec) (found : SetPlaces) (binding : UInt32) :
    (mergeSpec e.1 e.2.1 e.2.2 found).1.get? binding =
      if e.2.2.binding = binding then some (Declared.merge e (found.get? binding))
      else found.get? binding := by
  unfold mergeSpec Declared.merge
  by_cases here : e.2.2.binding = binding
  · subst here
    rw [if_pos rfl]
    cases there : found.get? e.2.2.binding with
    | none => exact SortedMap.get?_insert_self _ _ _
    | some p =>
      dsimp only
      split
      · exact SortedMap.get?_insert_self _ _ _
      · exact there
  · have other : binding ≠ e.2.2.binding := fun same => here same.symm
    rw [if_neg here]
    cases found.get? e.2.2.binding with
    | none => exact SortedMap.get?_insert_of_ne _ _ other
    | some p =>
      dsimp only
      split
      · exact SortedMap.get?_insert_of_ne _ _ other
      · rfl

theorem mergeSpec_ascending (e : ShaderModule × String × Spec) {found : SetPlaces}
    (ascending : found.Ascending) : (mergeSpec e.1 e.2.1 e.2.2 found).1.Ascending := by
  unfold mergeSpec
  split
  · exact ascending.insert _ _
  · split
    · exact ascending.insert _ _
    · exact ascending

def Gathers (es : List (ShaderModule × String × Spec)) (set binding : UInt32) : Option Declared → Prop
  | none => ∀ e ∈ es, ¬ e.2.2.PlacedAt set binding
  | some p =>
    (∃ e, es.find? (fun e => e.2.2.PlacedAt set binding) = some e ∧ p.type = e.2.2.kind.type) ∧
    ∀ bit, p.stages.toNat.testBit bit = true ↔ ∃ e ∈ es, e.1.stage.flag.toNat.testBit bit = true ∧
      e.2.2.PlacedAt set binding ∧ e.2.2.kind.type = p.type

variable {es : List (ShaderModule × String × Spec)} {e : ShaderModule × String × Spec}
  {set binding : UInt32} {o : Option Declared}

theorem exists_mem_concat {α : Type} {p : α → Prop} {l : List α} {b : α} :
    (∃ a ∈ l ++ [b], p a) ↔ (∃ a ∈ l, p a) ∨ p b := by
  simp [or_and_right, exists_or]

theorem Gathers.elsewhere (gathers : Gathers es set binding o) (away : ¬ e.2.2.PlacedAt set binding) :
    Gathers (es ++ [e]) set binding o := by
  cases o with
  | none =>
    intro f mem
    rcases List.mem_append.mp mem with mem | mem
    · exact gathers f mem
    · rw [List.mem_singleton.mp mem]
      exact away
  | some p =>
    obtain ⟨⟨first, found, type⟩, stages⟩ := gathers
    refine ⟨⟨first, ?_, type⟩, ?_⟩
    · rw [List.find?_append, found]
      rfl
    · intro bit
      rw [stages bit, exists_mem_concat]
      constructor
      · exact .inl
      · rintro (earlier | ⟨_, placed, _⟩)
        · exact earlier
        · exact absurd placed away

theorem Gathers.first (gathers : Gathers es set binding none) (placed : e.2.2.PlacedAt set binding) :
    Gathers (es ++ [e]) set binding (some ⟨e.2.2.kind.type, e.1.stage.flag⟩) := by
  have absent : es.find? (fun f => f.2.2.PlacedAt set binding) = none := by
    refine List.find?_eq_none.mpr ?_
    intro f mem there
    exact gathers f mem (of_decide_eq_true there)
  refine ⟨⟨e, ?_, rfl⟩, ?_⟩
  · rw [List.find?_append, absent]
    change [e].find? (fun f => f.2.2.PlacedAt set binding) = some e
    exact List.find?_cons_of_pos (by simpa using placed)
  · intro bit
    rw [exists_mem_concat]
    constructor
    · intro has
      exact .inr ⟨has, placed, rfl⟩
    · rintro (⟨f, mem, _, there, _⟩ | ⟨has, _⟩)
      · exact absurd there (gathers f mem)
      · exact has

theorem Gathers.more {p : Declared} (gathers : Gathers es set binding (some p))
    (placed : e.2.2.PlacedAt set binding) :
    Gathers (es ++ [e]) set binding (some (Declared.merge e (some p))) := by
  obtain ⟨⟨first, found, type⟩, stages⟩ := gathers
  have still : (es ++ [e]).find? (fun f => f.2.2.PlacedAt set binding) = some first := by
    rw [List.find?_append, found]
    rfl
  by_cases same : p.type = e.2.2.kind.type
  · have merged : Declared.merge e (some p) = { p with stages := p.stages ||| e.1.stage.flag } :=
      if_pos same
    rw [merged]
    refine ⟨⟨first, still, type⟩, ?_⟩
    intro bit
    change (p.stages ||| e.1.stage.flag).toNat.testBit bit = true ↔ _
    rw [UInt32.toNat_or, Nat.testBit_or, Bool.or_eq_true, stages bit, exists_mem_concat]
    constructor
    · rintro (earlier | has)
      · exact .inl earlier
      · exact .inr ⟨has, placed, same.symm⟩
    · rintro (earlier | ⟨has, _⟩)
      · exact .inl earlier
      · exact .inr has
  · have merged : Declared.merge e (some p) = p := if_neg same
    rw [merged]
    refine ⟨⟨first, still, type⟩, ?_⟩
    intro bit
    rw [stages bit, exists_mem_concat]
    constructor
    · exact .inl
    · rintro (earlier | ⟨_, _, type'⟩)
      · exact earlier
      · exact absurd type'.symm same

theorem Gathers.concat (gathers : Gathers es set binding o) (e : ShaderModule × String × Spec) :
    Gathers (es ++ [e]) set binding
      (if e.2.2.PlacedAt set binding then some (Declared.merge e o) else o) := by
  split
  · rename_i placed
    cases o with
    | none => exact gathers.first placed
    | some p => exact gathers.more placed
  · rename_i away
    exact gathers.elsewhere away

structure Merged.Tells (acc : Merged) (es : List (ShaderModule × String × Spec)) : Prop where
  ascending : acc.places.Ascending
  inner : ∀ set places, acc.places.get? set = some places → places.Ascending
  sets : ∀ set, acc.places.get? set = none ↔ ∀ e ∈ es, e.2.2.set ≠ set
  places : ∀ set binding, Gathers es set binding (acc.declared? set binding)

theorem Merged.tells_nil (conflicts : List Record) : Merged.Tells ⟨SortedMap.empty, conflicts⟩ [] where
  ascending := SortedMap.ascending_empty
  inner := by
    intro set places found
    cases found
  sets := by
    intro set
    refine ⟨fun _ e mem => ?_, fun _ => rfl⟩
    cases mem
  places := by
    intro set binding e mem
    cases mem

theorem Merged.declared?_add (acc : Merged) (e : ShaderModule × String × Spec) (set binding : UInt32) :
    (acc.add e).declared? set binding =
      if e.2.2.PlacedAt set binding then some (Declared.merge e (acc.declared? set binding))
      else acc.declared? set binding := by
  have places : (acc.add e).places.get? set =
      if set = e.2.2.set then
        some (mergeSpec e.1 e.2.1 e.2.2 ((acc.places.get? e.2.2.set).getD SortedMap.empty)).1
      else acc.places.get? set := SortedMap.get?_insert _ _ _ _
  unfold Merged.declared?
  rw [places]
  by_cases here : set = e.2.2.set
  · subst here
    have inside : ((acc.places.get? e.2.2.set).getD SortedMap.empty).get? binding =
        (acc.places.get? e.2.2.set).bind (·.get? binding) := by
      cases acc.places.get? e.2.2.set <;> rfl
    rw [if_pos rfl, Option.bind_some, mergeSpec_get?, inside]
    exact if_congr ⟨fun same => ⟨rfl, same⟩, fun placed => placed.2⟩ rfl rfl
  · rw [if_neg here, if_neg]
    rintro ⟨same, _⟩
    exact here same.symm

theorem Merged.Tells.concat {acc : Merged} (tells : acc.Tells es)
    (e : ShaderModule × String × Spec) : (acc.add e).Tells (es ++ [e]) where
  ascending := tells.ascending.insert _ _
  inner := by
    intro set places found
    change (acc.places.insert _ _).get? set = some places at found
    rw [SortedMap.get?_insert] at found
    split at found
    · cases found
      refine mergeSpec_ascending e ?_
      cases there : acc.places.get? e.2.2.set with
      | none => exact SortedMap.ascending_empty
      | some before => exact tells.inner _ before there
    · exact tells.inner set places found
  sets := by
    intro set
    change (acc.places.insert _ _).get? set = none ↔ _
    rw [SortedMap.get?_insert]
    split
    · rename_i here
      constructor
      · intro impossible
        cases impossible
      · intro away
        exact absurd here.symm (away e (List.mem_append_right es (List.mem_singleton_self e)))
    · rename_i other
      rw [tells.sets set]
      constructor
      · intro away f mem
        rcases List.mem_append.mp mem with mem | mem
        · exact away f mem
        · rw [List.mem_singleton.mp mem]
          exact Ne.symm other
      · intro away f mem
        exact away f (List.mem_append_left [e] mem)
  places := by
    intro set binding
    rw [Merged.declared?_add]
    exact (tells.places set binding).concat e

theorem tells_specs (es : List (ShaderModule × String × Spec)) :
    (es.foldl Merged.add ⟨SortedMap.empty, []⟩).Tells es := by
  induction es using List.reverseRecOn with
  | nil => exact Merged.tells_nil []
  | append_singleton es e ih =>
    rw [List.foldl_append, List.foldl_cons, List.foldl_nil]
    exact ih.concat e

end Merging

section Layout

variable {modules other : List ShaderModule} {set binding : UInt32}

theorem exists_mem_specsOf {P : ShaderModule → Spec → Prop} :
    (∃ e ∈ specsOf modules, P e.1 e.2.2) ↔ ∃ m ∈ modules, ∃ e ∈ m.specs.entries, P m e.2 := by
  constructor
  · rintro ⟨e, mem, holds⟩
    obtain ⟨here, found⟩ := mem_specsOf.mp mem
    exact ⟨e.1, here, e.2, found, holds⟩
  · rintro ⟨m, here, e, found, holds⟩
    exact ⟨(m, e), mem_specsOf.mpr ⟨here, found⟩, holds⟩

theorem Gathers.merges {p : Declared} (gathers : Gathers (specsOf modules) set binding (some p)) :
    (p.toBinding binding).Merges modules set := by
  obtain ⟨⟨first, found, type⟩, stages⟩ := gathers
  refine ⟨rfl, ⟨first, found, congrArg DescriptorType.code type⟩, ?_⟩
  intro bit
  refine (stages bit).trans (exists_mem_specsOf (P := fun m s => m.stage.flag.toNat.testBit bit = true ∧
    s.PlacedAt set binding ∧ s.kind.type = p.type) |>.trans ?_)
  constructor
  · rintro ⟨m, here, e, found, has, placed, same⟩
    exact ⟨m, here, has, e, found, placed, DescriptorType.code_inj.mpr same⟩
  · rintro ⟨m, here, has, e, found, placed, same⟩
    exact ⟨m, here, e, found, has, placed, DescriptorType.code_inj.mp same⟩

theorem Gathers.isSome_iff {es : List (ShaderModule × String × Spec)} {o : Option Declared}
    (gathers : Gathers es set binding o) :
    o.isSome = true ↔ ∃ e ∈ es, e.2.2.PlacedAt set binding := by
  cases o with
  | none =>
    constructor
    · intro impossible
      cases impossible
    · rintro ⟨e, mem, placed⟩
      exact absurd placed (gathers e mem)
  | some p =>
    obtain ⟨⟨first, found, _⟩, _⟩ := gathers
    have placed := List.find?_some found
    exact ⟨fun _ => ⟨first, List.mem_of_find?_eq_some found, by simpa using placed⟩, fun _ => rfl⟩

theorem eq_of_ascending {α : Type} {key : α → UInt32} {l k : List α}
    (mine : (l.map key).Pairwise (· < ·)) (theirs : (k.map key).Pairwise (· < ·))
    (keys : ∀ i, i ∈ l.map key ↔ i ∈ k.map key)
    (determined : ∀ a ∈ l, ∀ b ∈ k, key a = key b → a = b) : l = k := by
  have asymm : ∀ a b : α, key a < key b → ¬ key b < key a := fun a b => UInt32.lt_asymm
  have : Std.Antisymm fun a b : α => key a < key b :=
    ⟨fun a b less greater => absurd greater (asymm a b less)⟩
  have : Std.Irrefl fun a b : α => key a < key b := ⟨fun a => UInt32.lt_irrefl (key a)⟩
  refine List.Pairwise.eq_of_mem_iff (List.pairwise_map.mp mine) (List.pairwise_map.mp theirs) ?_
  intro a
  constructor
  · intro mem
    obtain ⟨b, there, same⟩ := List.mem_map.mp ((keys (key a)).mp (List.mem_map_of_mem mem))
    rw [determined a mem b there same.symm]
    exact there
  · intro mem
    obtain ⟨b, there, same⟩ := List.mem_map.mp ((keys (key a)).mpr (List.mem_map_of_mem mem))
    rw [← determined b there a mem same]
    exact there

theorem LayoutBinding.Merges.unique {a b : LayoutBinding} (mine : a.Merges modules set)
    (theirs : b.Merges modules set) (same : a.binding = b.binding) : a = b := by
  obtain ⟨e, found, type⟩ := mine.type
  obtain ⟨f, found', type'⟩ := theirs.type
  have types : a.type = b.type := by
    rw [same, found'] at found
    rw [type, type', Option.some.inj found]
  have stages : a.stages = b.stages := by
    refine UInt32.toNat_inj.mp (Nat.eq_of_testBit_eq ?_)
    intro bit
    rw [Bool.eq_iff_iff, mine.stages bit, theirs.stages bit, same, types]
  obtain ⟨_, _, _, _⟩ := a
  obtain ⟨_, _, _, _⟩ := b
  cases same
  cases types
  cases stages
  cases mine.count
  cases theirs.count
  rfl

theorem MergedLayout.unique {l k : List (UInt32 × List LayoutBinding)} (mine : MergedLayout modules l)
    (theirs : MergedLayout modules k) : l = k := by
  refine eq_of_ascending mine.ascending theirs.ascending
    (fun set => (mine.sets set).trans (theirs.sets set).symm) ?_
  rintro ⟨set, bs⟩ here ⟨_, cs⟩ there rfl
  have inner : bs = cs := by
    refine eq_of_ascending (mine.bindingsAscending _ here) (theirs.bindingsAscending _ there)
      (fun binding => (mine.bindings _ here binding).trans (theirs.bindings _ there binding).symm) ?_
    intro b mem c mem' same
    exact (mine.merged _ here b mem).unique (theirs.merged _ there c mem') same
  rw [inner]

section Permuted

variable (shuffled : modules.Perm other) (agree : KindsAgree modules)

include shuffled

theorem exists_module_perm {P : ShaderModule → Prop} :
    (∃ m ∈ modules, P m) ↔ ∃ m ∈ other, P m :=
  exists_congr fun _ => and_congr_left fun _ => shuffled.mem_iff

include agree

theorem LayoutBinding.Merges.perm {b : LayoutBinding} (merges : b.Merges modules set) :
    b.Merges other set where
  count := merges.count
  type := by
    obtain ⟨e, found, type⟩ := merges.type
    obtain ⟨here, mem⟩ := mem_specsOf.mp (List.mem_of_find?_eq_some found)
    have placed : e.2.2.PlacedAt set b.binding := by simpa using List.find?_some found
    have there : e ∈ specsOf other := mem_specsOf.mpr ⟨shuffled.mem_iff.mp here, mem⟩
    -- The first spec of the other order may be another one, of the same kind.
    have somewhere : ((specsOf other).find? fun f => f.2.2.PlacedAt set b.binding).isSome :=
      List.find?_isSome.mpr ⟨e, there, by simpa using placed⟩
    obtain ⟨f, first⟩ := Option.isSome_iff_exists.mp somewhere
    obtain ⟨here', mem'⟩ := mem_specsOf.mp (List.mem_of_find?_eq_some first)
    have placed' : f.2.2.PlacedAt set b.binding := by simpa using List.find?_some first
    have together : f.2.2.PlacedAt e.2.2.set e.2.2.binding :=
      ⟨placed'.1.trans placed.1.symm, placed'.2.trans placed.2.symm⟩
    have kind := agree e.1 here e.2 mem f.1 (shuffled.mem_iff.mpr here') f.2 mem' together
    exact ⟨f, first, by rw [type, kind]⟩
  stages := fun bit => (merges.stages bit).trans (exists_module_perm shuffled)

theorem MergedLayout.perm {l : List (UInt32 × List LayoutBinding)} (merged : MergedLayout modules l) :
    MergedLayout other l where
  ascending := merged.ascending
  sets := fun set => (merged.sets set).trans (exists_module_perm shuffled)
  bindingsAscending := merged.bindingsAscending
  bindings := fun s mem binding => (merged.bindings s mem binding).trans (exists_module_perm shuffled)
  merged := fun s mem b inner => (merged.merged s mem b inner).perm shuffled agree

end Permuted

theorem mergedLayout (modules : List ShaderModule) : MergedLayout modules (layoutBindings modules) := by
  have tells : (mergeSpecs modules).Tells (specsOf modules) := tells_specs _
  generalize made : mergeSpecs modules = acc at tells
  have layout : layoutBindings modules = acc.places.entries.map fun set =>
      (set.1, set.2.entries.map fun e => e.2.toBinding e.1) := by rw [← made]; rfl
  rw [layout]
  have declared : ∀ e ∈ acc.places.entries, ∀ binding,
      acc.declared? e.1 binding = e.2.get? binding := by
    intro e mem binding
    unfold Merged.declared?
    rw [tells.ascending.mem_entries_iff.mp mem]
    rfl
  have ordered : ∀ e ∈ acc.places.entries, e.2.Ascending := by
    intro e mem
    exact tells.inner e.1 e.2 (tells.ascending.mem_entries_iff.mp mem)
  constructor
  · rw [List.map_map]
    exact List.pairwise_map.mpr tells.ascending
  · intro set
    rw [List.map_map, List.mem_map]
    refine tells.ascending.exists_entry_iff.trans ?_
    rw [← Option.ne_none_iff_isSome, Ne, tells.sets set,
      ← exists_mem_specsOf (P := fun _ s => s.set = set)]
    push Not
    rfl
  · intro s mem
    obtain ⟨e, here, rfl⟩ := List.mem_map.mp mem
    rw [List.map_map]
    exact List.pairwise_map.mpr (ordered e here)
  · intro s mem binding
    obtain ⟨e, here, rfl⟩ := List.mem_map.mp mem
    rw [List.map_map, List.mem_map]
    refine (ordered e here).exists_entry_iff.trans ?_
    rw [← declared e here, (tells.places e.1 binding).isSome_iff]
    exact exists_mem_specsOf (P := fun _ s => s.PlacedAt e.1 binding)
  · intro s mem b inner
    obtain ⟨e, here, rfl⟩ := List.mem_map.mp mem
    obtain ⟨p, there, rfl⟩ := List.mem_map.mp inner
    have found : acc.declared? e.1 p.1 = some p.2 := by
      rw [declared e here]
      exact (ordered e here).mem_entries_iff.mp there
    have gathers := tells.places e.1 p.1
    rw [found] at gathers
    exact gathers.merges

/-- The layouts of a pipeline have the sets and bindings of the specs, each merged from the specs at its
place. They do not depend on the order of the modules unless two specs at one place differ in kind. -/
theorem layoutBindings_merged (modules : List ShaderModule) :
    MergedLayout modules (layoutBindings modules) ∧
      ∀ other : List ShaderModule, modules.Perm other → KindsAgree modules →
        layoutBindings other = layoutBindings modules := by
  refine ⟨mergedLayout modules, ?_⟩
  intro other shuffled agree
  exact (mergedLayout other).unique ((mergedLayout modules).perm shuffled agree)

end Layout

namespace SharedView

def view (members : List Member) : Spec := ⟨"View", 1, 0, .uniformBuffer, members⟩

def vertexStage : ShaderModule :=
  ⟨.vertex, .ofText "lit.vert", [1], ⟨[("View", view [⟨"eye", 0, 0, 16⟩])]⟩, []⟩

def fragmentStage : ShaderModule :=
  ⟨.fragment, .ofText "lit.frag", [1],
    ⟨[("View", view []), ("textures", ⟨"albedo", 0, 2, .inputTextures, []⟩)]⟩, []⟩

end SharedView

open SharedView in
theorem layoutBindings_merged_shared_view :
    [vertexStage, fragmentStage].Perm [fragmentStage, vertexStage] ∧
      KindsAgree [vertexStage, fragmentStage] ∧
      layoutBindings [vertexStage, fragmentStage] = [(0, [⟨2, 1, 1, 16⟩]), (1, [⟨0, 6, 1, 17⟩])] ∧
      layoutBindings [fragmentStage, vertexStage] = layoutBindings [vertexStage, fragmentStage] := by
  have shuffled : [vertexStage, fragmentStage].Perm [fragmentStage, vertexStage] := .swap _ _ _
  have agree : KindsAgree [vertexStage, fragmentStage] := by unfold KindsAgree; decide
  exact ⟨shuffled, agree, rfl, (layoutBindings_merged _).2 _ shuffled agree⟩

end SceneGpu
