import SceneGpu.Collection
/-!
Looking up in a map after an entry was set: the entry has its new value, all others keep theirs. In a
map whose keys ascend, an insertion puts one value in and takes out the one that it replaces.
-/
namespace SceneGpu.SortedMap

variable {κ ν : Type} [DecidableEq κ] [LT κ] [DecidableLT κ]

theorem find?_insertEntry (k l : κ) (v : ν) (entries : List (κ × ν)) :
    ((insertEntry k v entries).find? (·.1 = l)).map (·.2) =
      if l = k then some v else (entries.find? (·.1 = l)).map (·.2) := by
  induction entries with
  | nil => by_cases same : k = l <;> simp [insertEntry, same, eq_comm]
  | cons e rest ih =>
    simp only [insertEntry]
    split
    · rename_i same
      by_cases here : k = l <;> simp_all [eq_comm]
    · split
      · by_cases here : k = l <;> simp_all [eq_comm]
      · by_cases here : e.1 = l
        · have other : l ≠ k := by intro eq; simp_all
          simp [here, other]
        · simpa [here] using ih

theorem get?_insert (m : SortedMap κ ν) (k l : κ) (v : ν) :
    (m.insert k v).get? l = if l = k then some v else m.get? l :=
  find?_insertEntry k l v m.entries

theorem get?_insert_self (m : SortedMap κ ν) (k : κ) (v : ν) : (m.insert k v).get? k = some v := by
  simp [get?_insert]

theorem get?_insert_of_ne (m : SortedMap κ ν) {k l : κ} (v : ν) (ne : l ≠ k) :
    (m.insert k v).get? l = m.get? l := by
  simp [get?_insert, ne]

omit [LT κ] [DecidableLT κ] in
theorem contains_eq_false (m : SortedMap κ ν) (k : κ) : m.contains k = false ↔ m.get? k = none := by
  simp [contains]

def Ascending (m : SortedMap κ ν) : Prop := m.entries.Pairwise fun a b => a.1 < b.1

omit [DecidableEq κ] [DecidableLT κ] in
theorem ascending_empty : (empty : SortedMap κ ν).Ascending := .nil

omit [DecidableEq κ] [DecidableLT κ] in
theorem ascending_of_values_eq_nil {m : SortedMap κ ν} (none : m.values = []) : m.Ascending := by
  rw [Ascending, List.map_eq_nil_iff.mp none]
  exact .nil

theorem mem_insertEntry {k : κ} {v : ν} {entries : List (κ × ν)} {e : κ × ν}
    (mem : e ∈ insertEntry k v entries) : e = (k, v) ∨ e ∈ entries := by
  induction entries with
  | nil => exact .inl (List.mem_singleton.mp mem)
  | cons first rest ih =>
    simp only [insertEntry] at mem
    split at mem
    · rcases List.mem_cons.mp mem with rfl | mem
      · exact .inl rfl
      · exact .inr (List.mem_cons_of_mem _ mem)
    · split at mem
      · exact List.mem_cons.mp mem
      · rcases List.mem_cons.mp mem with rfl | mem
        · exact .inr List.mem_cons_self
        · exact (ih mem).imp_right (List.mem_cons_of_mem _)

theorem mem_values_insert (m : SortedMap κ ν) (k : κ) (v : ν) : v ∈ (m.insert k v).values := by
  obtain ⟨e, found, value⟩ := Option.map_eq_some_iff.mp (m.get?_insert_self k v)
  exact List.mem_map.mpr ⟨e, List.mem_of_find?_eq_some found, value⟩

omit [DecidableLT κ] in
theorem Ascending.mem_entries_iff [Std.Irrefl fun a b : κ => a < b] {m : SortedMap κ ν}
    (ascending : m.Ascending) {k : κ} {v : ν} : (k, v) ∈ m.entries ↔ m.get? k = some v := by
  obtain ⟨entries⟩ := m
  change (k, v) ∈ entries ↔ (entries.find? (·.1 = k)).map (·.2) = some v
  change entries.Pairwise _ at ascending
  induction entries with
  | nil => simp
  | cons first rest ih =>
    obtain ⟨above, inner⟩ := List.pairwise_cons.mp ascending
    rw [List.mem_cons, ih inner]
    by_cases here : first.1 = k
    · have absent : rest.find? (·.1 = k) = none := by
        refine List.find?_eq_none.mpr ?_
        intro e mem same
        have greater := above e mem
        rw [decide_eq_true_iff.mp same, here] at greater
        exact Std.lt_irrefl greater
      rw [absent, List.find?_cons_of_pos (by simpa using here)]
      obtain ⟨l, w⟩ := first
      subst here
      simp [eq_comm]
    · rw [List.find?_cons_of_neg (by simpa using here)]
      constructor
      · rintro (rfl | found)
        · exact absurd rfl here
        · exact found
      · exact .inr

omit [DecidableLT κ] in
theorem Ascending.exists_entry_iff [Std.Irrefl fun a b : κ => a < b] {m : SortedMap κ ν}
    (ascending : m.Ascending) {k : κ} : (∃ e ∈ m.entries, e.1 = k) ↔ (m.get? k).isSome = true := by
  rw [Option.isSome_iff_exists]
  constructor
  · rintro ⟨⟨_, v⟩, mem, rfl⟩
    exact ⟨v, ascending.mem_entries_iff.mp mem⟩
  · rintro ⟨v, found⟩
    exact ⟨(k, v), ascending.mem_entries_iff.mpr found, rfl⟩

section Ordered

variable [Trans (fun a b : κ => a < b) (fun a b : κ => a < b) (fun a b : κ => a < b)]

theorem Ascending.insert [Std.Trichotomous fun a b : κ => a < b] {m : SortedMap κ ν}
    (ascending : m.Ascending) (k : κ) (v : ν) : (m.insert k v).Ascending := by
  obtain ⟨entries⟩ := m
  change (insertEntry k v entries).Pairwise _
  change entries.Pairwise _ at ascending
  induction entries with
  | nil => exact List.pairwise_singleton _ _
  | cons first rest ih =>
    obtain ⟨above, inner⟩ := List.pairwise_cons.mp ascending
    simp only [insertEntry]
    split
    · rename_i same
      subst same
      exact List.pairwise_cons.mpr ⟨above, inner⟩
    · rename_i other
      split
      · rename_i less
        refine List.pairwise_cons.mpr ⟨?_, ascending⟩
        intro e mem
        rcases List.mem_cons.mp mem with rfl | mem
        · exact less
        · exact Std.lt_trans less (above e mem)
      · rename_i notLess
        refine List.pairwise_cons.mpr ⟨?_, ih inner⟩
        intro e mem
        rcases mem_insertEntry mem with rfl | mem
        · refine Decidable.byContradiction ?_
          intro notGreater
          exact other (Std.Trichotomous.trichotomous k first.1 notLess notGreater)
        · exact above e mem

/-- What was in the map and what comes into it is what is in it now and what is replaced. -/
theorem Ascending.values_insert [Std.Irrefl fun a b : κ => a < b] {m : SortedMap κ ν}
    (ascending : m.Ascending) (k : κ) (v : ν) :
    ((m.insert k v).values ++ (m.get? k).toList).Perm (m.values ++ [v]) := by
  obtain ⟨entries⟩ := m
  change ((insertEntry k v entries).map (·.2) ++ ((entries.find? (·.1 = k)).map (·.2)).toList).Perm
    (entries.map (·.2) ++ [v])
  change entries.Pairwise _ at ascending
  induction entries with
  | nil => exact .refl _
  | cons first rest ih =>
    obtain ⟨above, inner⟩ := List.pairwise_cons.mp ascending
    simp only [insertEntry]
    split
    · rename_i same
      subst same
      have moved : (v :: (rest.map (·.2) ++ [first.2])).Perm (first.2 :: (rest.map (·.2) ++ [v])) :=
        (List.perm_append_singleton _ _).cons v |>.trans
          ((List.Perm.swap first.2 v _).trans ((List.perm_append_singleton _ _).symm.cons first.2))
      simpa using moved
    · rename_i other
      have skip : ¬ first.1 = k := fun eq => other eq.symm
      split
      · rename_i less
        have absent : rest.find? (·.1 = k) = none := by
          refine List.find?_eq_none.mpr ?_
          intro e mem same
          have greater := Std.lt_trans less (above e mem)
          rw [decide_eq_true_iff.mp same] at greater
          exact Std.lt_irrefl greater
        simpa [skip, absent] using (List.perm_append_singleton v (first.2 :: rest.map (·.2))).symm
      · simpa [skip] using (ih inner).cons first.2

end Ordered

end SceneGpu.SortedMap
