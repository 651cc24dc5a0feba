import SceneGpu.Proofs.Collection.Lists
import SceneGpu.Proofs.Shader.Reflected
/-!
Specs that are filled by insertions alone. The first insertion of each key is what they hold, in the
order of the insertions, and all that is read of them tells of these entries.
-/
namespace SceneGpu

structure FirstTried (tried entries : List (String × Spec)) : Prop where
  distinct : (entries.map Prod.fst).Nodup
  first : ∀ e, e ∈ entries ↔ ∃ i, IsFirst Prod.fst tried e.1 i e
  order : entries.Pairwise (Earlier Prod.fst tried)

namespace Specs

/-- Whichever way the specs are read, they are these entries. -/
structure ReadAs (s : Specs) (entries : List (String × Spec)) : Prop where
  listed : s.entries = entries
  get? : ∀ key spec, s.get? key = some spec ↔ (key, spec) ∈ entries
  contains : ∀ key, s.contains key = true ↔ ∃ spec, (key, spec) ∈ entries
  size : s.size = entries.length
  isEmpty : s.isEmpty = true ↔ entries = []
  uniformBuffers : s.uniformBuffers =
    entries.filterMap fun e => if e.2.kind = .uniformBuffer then some e.2 else none

theorem get?_eq_some_iff {s : Specs} (distinct : (s.entries.map Prod.fst).Nodup) {key : String}
    {spec : Spec} : s.get? key = some spec ↔ (key, spec) ∈ s.entries := by
  unfold get?
  rw [Option.map_eq_some_iff]
  constructor
  · rintro ⟨⟨k, spec⟩, found, rfl⟩
    obtain rfl : k = key := by simpa using List.find?_some found
    exact List.mem_of_find?_eq_some found
  · intro mem
    exact ⟨(key, spec), find?_of_nodup distinct mem, rfl⟩

theorem readAs_entries {s : Specs} (distinct : (s.entries.map Prod.fst).Nodup) :
    s.ReadAs s.entries where
  listed := rfl
  get? _ _ := get?_eq_some_iff distinct
  contains key := by
    rw [contains_iff, List.mem_map]
    simp
  size := rfl
  isEmpty := List.isEmpty_iff
  uniformBuffers := by
    unfold uniformBuffers
    generalize s.entries = entries
    induction entries with
    | nil => rfl
    | cons e rest ih =>
      by_cases kind : e.2.kind = .uniformBuffer
      · simp [kind, ← ih]
      · simp [kind, ← ih]

theorem firstTried_iff {tried entries : List (String × Spec)} :
    FirstTried tried entries ↔ entries = (ofList tried).entries := by
  rw [ofList_entries]
  constructor
  · rintro ⟨_, first, order⟩
    exact eq_firstsOn Prod.fst first order
  · rintro rfl
    exact ⟨nodup_firstsOn _ _, fun _ => mem_firstsOn_iff _, firstsOn_earlier _ _⟩

theorem ofList_concat (tried : List (String × Spec)) (key : String) (spec : Spec) :
    ofList (tried ++ [(key, spec)]) = ((ofList tried).insertIfAbsent key spec).1 := by
  rw [ofList, List.foldl_append]
  rfl

theorem contains_ofList {tried : List (String × Spec)} {key : String} :
    (ofList tried).contains key = true ↔ key ∈ tried.map Prod.fst := by
  rw [contains_iff, ofList_entries]
  exact mem_map_firstsOn Prod.fst

theorem insertIfAbsent_cases (s : Specs) (key : String) (spec : Spec) :
    (s.contains key = true ∧ s.insertIfAbsent key spec = (s, false)) ∨
    (s.contains key = false ∧ s.insertIfAbsent key spec = (⟨s.entries ++ [(key, spec)]⟩, true)) := by
  cases taken : s.contains key with
  | true => exact .inl ⟨rfl, if_pos taken⟩
  | false => exact .inr ⟨rfl, if_neg (Bool.eq_false_iff.mp taken)⟩

/-- Of any insertions, those that were the first of their key are kept in order, and every reader tells of
them. One more insertion is accepted exactly if its key was not tried before, and else changes nothing. -/
theorem insertions_keep_first (tried : List (String × Spec)) :
    (∃! entries, FirstTried tried entries) ∧
    (∀ entries, FirstTried tried entries → (ofList tried).ReadAs entries) ∧
    ∀ key spec,
      ((ofList tried).insertIfAbsent key spec).1 = ofList (tried ++ [(key, spec)]) ∧
      (((ofList tried).insertIfAbsent key spec).2 = true ↔ key ∉ tried.map Prod.fst) ∧
      (((ofList tried).insertIfAbsent key spec).2 = false →
        ((ofList tried).insertIfAbsent key spec).1 = ofList tried) := by
  refine ⟨?_, ?_, ?_⟩
  · exact ⟨_, firstTried_iff.mpr rfl, fun _ => firstTried_iff.mp⟩
  · intro entries first
    obtain rfl := firstTried_iff.mp first
    exact readAs_entries first.distinct
  · intro key spec
    refine ⟨(ofList_concat tried key spec).symm, ?_⟩
    rw [← contains_ofList]
    rcases (ofList tried).insertIfAbsent_cases key spec with ⟨taken, same⟩ | ⟨free, added⟩
    · simp [taken, same]
    · simp [free, added]

theorem insertions_keep_first_twice :
    let matrices : Spec := ⟨"Matrices", 0, 0, .uniformBuffer, [⟨"model", 0, 0, 64⟩]⟩
    let images : Spec := ⟨"inputs", 1, 0, .inputTextures, []⟩
    let other : Spec := { matrices with binding := 7 }
    let tried := [("Matrices", matrices), ("albedo", images), ("Matrices", other)]
    let entries := [("Matrices", matrices), ("albedo", images)]
    FirstTried tried entries ∧ (Specs.ofList tried).ReadAs entries ∧
      ((Specs.ofList tried).insertIfAbsent "Matrices" other).2 = false ∧
      ((Specs.ofList tried).insertIfAbsent "Matrices" other).1 = Specs.ofList tried := by
  intro matrices images other tried entries
  obtain ⟨_, reads, more⟩ := insertions_keep_first tried
  have first : FirstTried tried entries := firstTried_iff.mpr (by decide)
  have refused : ((Specs.ofList tried).insertIfAbsent "Matrices" other).2 = false := by decide
  exact ⟨first, reads entries first, refused, (more "Matrices" other).2.2 refused⟩

end Specs
end SceneGpu
