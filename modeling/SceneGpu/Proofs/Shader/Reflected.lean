import SceneGpu.Proofs.Collection.Sequence
import SceneGpu.Shader.Library
/-!
The descriptor specs of a stage, told from its resources without the sort, the search for doubles and
the insertions that lead to them.
-/
namespace SceneGpu

/-- The active range of lowest index with its name, and the first of them where indices are equal. -/
def Leads (ranges : List Bytecode.ActiveRange) (i : Nat) (r : Bytecode.ActiveRange) : Prop :=
  ranges[i]? = some r ∧ ∀ j other, ranges[j]? = some other → other.name = r.name →
    r.index < other.index ∨ (r.index = other.index ∧ i ≤ j)

structure MembersOf (ranges : List Bytecode.ActiveRange) (members : List Member) : Prop where
  some : members ≠ []
  sorted : members.Pairwise fun m n => m.index ≤ n.index
  names : (members.map (·.name)).Nodup
  leading : ∀ m, m ∈ members ↔ ∃ i r, Leads ranges i r ∧ m = .ofRange r

structure BufferEntry (b : Bytecode.UniformBuffer) (e : String × Spec) : Prop where
  key : e.1 = b.name
  name : e.2.name = b.name
  set : e.2.set = b.set
  binding : e.2.binding = b.binding
  kind : e.2.kind = .uniformBuffer
  members : MembersOf b.active e.2.members

def activeBuffers (buffers : List Bytecode.UniformBuffer) : List Bytecode.UniformBuffer :=
  buffers.filter (·.active ≠ [])

def FirstActive (buffers : List Bytecode.UniformBuffer) (i : Nat) (b : Bytecode.UniformBuffer) : Prop :=
  (activeBuffers buffers)[i]? = some b ∧
    ∀ j c, j < i → (activeBuffers buffers)[j]? = some c → c.name ≠ b.name

def BufferEntries (buffers : List Bytecode.UniformBuffer) (entries : List (String × Spec)) : Prop :=
  ∃ places : List Nat, places.Pairwise (· < ·) ∧
    (∀ i, i ∈ places ↔ ∃ b, FirstActive buffers i b) ∧
    List.Forall₂ (fun i e => ∃ b, FirstActive buffers i b ∧ BufferEntry b e) places entries

inductive ImageEntries (images : List Bytecode.SampledImage) (taken : List String) :
    List (String × Spec) → Prop
  | present (i : Bytecode.SampledImage) (first : images.head? = some i)
      (other : i.name ≠ objectTextures) (free : i.name ∉ taken) :
      ImageEntries images taken [(i.name, ⟨inputTextures, i.set, 0, .inputTextures, []⟩)]
  | absent (none : ∀ i, images.head? = some i → i.name = objectTextures ∨ i.name ∈ taken) :
      ImageEntries images taken []

structure Describes (r : Bytecode.Resources) (specs : Specs) : Prop where
  keys : (specs.entries.map (·.1)).Nodup
  entries : ∃ buffers images, specs.entries = buffers ++ images ∧
    BufferEntries r.uniformBuffers buffers ∧
    ImageEntries r.sampledImages (buffers.map (·.1)) images

section Members

variable {ranges : List Bytecode.ActiveRange}

theorem leads_iff {i : Nat} {r : Bytecode.ActiveRange} :
    Leads ranges i r ↔ Lowest (·.index.toNat) (fun s => s.name = r.name) ranges i r := by
  constructor
  · rintro ⟨here, least⟩
    refine ⟨here, by simp, ?_⟩
    intro j other there same
    rcases least j other there (by simpa using same) with less | ⟨same, le⟩
    · exact .inl (UInt32.lt_iff_toNat_lt.mp less)
    · exact .inr ⟨congrArg UInt32.toNat same, le⟩
  · intro lowest
    refine ⟨lowest.here, ?_⟩
    intro j other there same
    rcases lowest.least j other there (by simpa using same) with less | ⟨same, le⟩
    · exact .inl (UInt32.lt_iff_toNat_lt.mpr less)
    · exact .inr ⟨UInt32.toNat_inj.mp same, le⟩

theorem activeMembers_eq_nil : activeMembers ranges = [] ↔ ranges = [] := by
  rw [activeMembers, List.map_eq_nil_iff, firstsOn_eq_nil]
  constructor
  · intro none_
    have same := (sortOn_perm (·.index.toNat) ranges).length_eq
    rw [none_] at same
    exact List.eq_nil_of_length_eq_zero same.symm
  · rintro rfl
    rfl

theorem mem_activeMembers {m : Member} :
    m ∈ activeMembers ranges ↔ ∃ i r, Leads ranges i r ∧ m = .ofRange r := by
  rw [activeMembers, List.mem_map]
  constructor
  · rintro ⟨r, mem, rfl⟩
    obtain ⟨i, lowest⟩ := (find?_sortOn_iff _).mp ((mem_firstsOn _).mp mem)
    exact ⟨i, r, leads_iff.mpr lowest, rfl⟩
  · rintro ⟨i, r, leads, rfl⟩
    refine ⟨r, (mem_firstsOn _).mpr ?_, rfl⟩
    exact (find?_sortOn_iff _).mpr ⟨i, leads_iff.mp leads⟩

theorem activeMembers_sorted : (activeMembers ranges).Pairwise fun m n => m.index ≤ n.index := by
  have sorted := (sortOn_pairwise (·.index.toNat) ranges).sublist (firstsOn_sublist (·.name) _)
  exact sorted.map Member.ofRange fun r s le => UInt32.le_iff_toNat_le.mpr le

theorem membersOf (some_ : ranges ≠ []) : MembersOf ranges (activeMembers ranges) where
  some := fun none_ => some_ (activeMembers_eq_nil.mp none_)
  sorted := activeMembers_sorted
  names := by
    have distinct := nodup_firstsOn (fun r : Bytecode.ActiveRange => r.name)
      (sortOn (·.index.toNat) ranges)
    rw [activeMembers, List.map_map]
    exact distinct
  leading _ := mem_activeMembers

end Members

namespace Specs

theorem contains_iff {s : Specs} {key : String} :
    s.contains key = true ↔ key ∈ s.entries.map (·.1) := by
  rw [contains, get?, Option.isSome_map, List.find?_isSome, List.mem_map]
  constructor
  · rintro ⟨e, mem, same⟩
    exact ⟨e, mem, by simpa using same⟩
  · rintro ⟨e, mem, rfl⟩
    exact ⟨e, mem, by simp⟩

theorem insertIfAbsent_entries (s : Specs) (key : String) (spec : Spec) :
    (s.insertIfAbsent key spec).1.entries =
      if key ∈ s.entries.map (·.1) then s.entries else s.entries ++ [(key, spec)] := by
  by_cases taken : key ∈ s.entries.map (·.1)
  · rw [insertIfAbsent, if_pos (contains_iff.mpr taken), if_pos taken]
  · rw [insertIfAbsent, if_neg fun held => taken (contains_iff.mp held), if_neg taken]

theorem foldl_entries (s : Specs) (entries : List (String × Spec)) :
    (entries.foldl (fun s e => (s.insertIfAbsent e.1 e.2).1) s).entries =
      s.entries ++ firstsBeyond (·.1) (s.entries.map (·.1)) entries := by
  induction entries generalizing s with
  | nil => simp [firstsBeyond]
  | cons e rest ih =>
    rw [List.foldl_cons, ih, firstsBeyond, insertIfAbsent_entries]
    split
    · rfl
    · have same : ∀ k, k ∈ (s.entries ++ [(e.1, e.2)]).map (·.1) ↔ k ∈ e.1 :: s.entries.map (·.1) := by
        intro k
        simp [or_comm]
      rw [firstsBeyond_congr _ same, List.append_assoc]
      rfl

theorem ofList_entries (entries : List (String × Spec)) :
    (ofList entries).entries = firstsOn (·.1) entries :=
  foldl_entries empty entries

def bufferEntry (b : Bytecode.UniformBuffer) : String × Spec :=
  (b.name, ⟨b.name, b.set, b.binding, .uniformBuffer, activeMembers b.active⟩)

theorem bufferEntry_of_active {b : Bytecode.UniformBuffer} (active : b.active ≠ []) :
    BufferEntry b (bufferEntry b) :=
  ⟨rfl, rfl, rfl, rfl, rfl, membersOf active⟩

theorem bufferEntry?_eq (b : Bytecode.UniformBuffer) :
    bufferEntry? b = if b.active = [] then none else some (bufferEntry b) := by
  unfold bufferEntry?
  by_cases idle : b.active = []
  · rw [if_pos idle, activeMembers_eq_nil.mpr idle]
  · rw [if_neg idle, bufferEntry]
    split
    · rename_i none_
      exact absurd (activeMembers_eq_nil.mp none_) idle
    · rename_i m ms eq
      rw [eq]

theorem filterMap_bufferEntry? (buffers : List Bytecode.UniformBuffer) :
    buffers.filterMap bufferEntry? = (activeBuffers buffers).map bufferEntry := by
  induction buffers with
  | nil => rfl
  | cons b rest ih =>
    by_cases idle : b.active = []
    · rw [List.filterMap_cons_none (by rw [bufferEntry?_eq, if_pos idle]), ih, activeBuffers,
        activeBuffers, List.filter_cons_of_neg (by simp [idle])]
    · rw [List.filterMap_cons_some (by rw [bufferEntry?_eq, if_neg idle]), ih, activeBuffers,
        activeBuffers, List.filter_cons_of_pos (by simp [idle]), List.map_cons]

theorem ofBuffers_entries (buffers : List Bytecode.UniformBuffer) :
    (ofBuffers buffers).entries = (firstsOn (·.name) (activeBuffers buffers)).map bufferEntry := by
  rw [ofBuffers, ofList_entries, filterMap_bufferEntry?]
  exact firstsBeyond_map (·.1) bufferEntry [] (activeBuffers buffers)

theorem ofBuffers_keys (buffers : List Bytecode.UniformBuffer) :
    ((ofBuffers buffers).entries.map (·.1)).Nodup := by
  rw [ofBuffers_entries, List.map_map]
  exact nodup_firstsOn (·.name) (activeBuffers buffers)

theorem bufferEntries_ofBuffers (buffers : List Bytecode.UniformBuffer) :
    BufferEntries buffers (ofBuffers buffers).entries := by
  obtain ⟨places, ascending, places_iff, elements⟩ :=
    firstsBeyond_places (·.name) [] (activeBuffers buffers)
  have first : ∀ i, i ∈ places ↔ ∃ b, FirstActive buffers i b := by
    intro i
    rw [places_iff, FirstAt]
    simp [FirstActive]
  refine ⟨places, ascending, first, ?_⟩
  rw [ofBuffers_entries, List.forall₂_map_right_iff]
  refine ((List.forall₂_and_left _ _).mpr ⟨fun i mem => (first i).mp mem, elements⟩).imp ?_
  rintro i b ⟨⟨c, firstActive⟩, here⟩
  obtain rfl : c = b := Option.some.inj (firstActive.1.symm.trans here)
  have active : c.active ≠ [] := by
    have mem := List.mem_of_getElem? here
    simpa [activeBuffers] using (List.mem_filter.mp mem).2
  exact ⟨c, firstActive, bufferEntry_of_active active⟩

theorem ofResources_entries (r : Bytecode.Resources) :
    ∃ images, (ofResources r).entries = (ofBuffers r.uniformBuffers).entries ++ images ∧
      ImageEntries r.sampledImages ((ofBuffers r.uniformBuffers).entries.map (·.1)) images := by
  unfold ofResources
  cases r.sampledImages with
  | nil =>
    refine ⟨[], (List.append_nil _).symm, .absent ?_⟩
    intro i head
    cases head
  | cons i rest =>
    by_cases object : i.name = objectTextures
    · rw [ imageEntry?, if_pos object]
      refine ⟨[], (List.append_nil _).symm, .absent ?_⟩
      intro j head
      cases head
      exact .inl object
    rw [ imageEntry?, if_neg object]
    dsimp only
    rw [insertIfAbsent_entries]
    by_cases taken : i.name ∈ (ofBuffers r.uniformBuffers).entries.map (·.1)
    · rw [if_pos taken]
      refine ⟨[], (List.append_nil _).symm, .absent ?_⟩
      intro j head
      cases head
      exact .inr taken
    · rw [if_neg taken]
      exact ⟨_, rfl, .present i rfl object taken⟩

end Specs

theorem ImageEntries.nodup {images : List Bytecode.SampledImage} {taken : List String}
    {entries : List (String × Spec)} (image : ImageEntries images taken entries)
    (distinct : taken.Nodup) : (taken ++ entries.map (·.1)).Nodup := by
  cases image with
  | present i _ _ free =>
    refine List.nodup_append.mpr ⟨distinct, by simp, ?_⟩
    intro k mem l here same
    obtain rfl : l = i.name := by simpa using here
    rw [same] at mem
    exact free mem
  | absent _ =>
    rw [List.map_nil, List.append_nil]
    exact distinct

theorem reflect_ok {s : Services} (path : Path) {words : List UInt32} {r : Bytecode.Resources}
    (some_ : words ≠ []) (found : s.introspect words = .ok r) :
    (Library.reflect s path words).result = .ok (Specs.ofResources r, r.stageInputs) := by
  unfold Library.reflect
  cases words with
  | nil => exact absurd rfl some_
  | cons w more =>
    dsimp only
    rw [found]

/-- Whatever is reported about a stage, its specs describe it. -/
theorem reflect_describes (r : Bytecode.Resources) :
    Describes r (Specs.ofResources r) ∧
    ∀ (s : Services) (path : Path) (words : List UInt32), words ≠ [] → s.introspect words = .ok r →
      (Library.reflect s path words).result = .ok (Specs.ofResources r, r.stageInputs) := by
  constructor
  · obtain ⟨images, entries, image⟩ := Specs.ofResources_entries r
    have buffers := Specs.bufferEntries_ofBuffers r.uniformBuffers
    refine ⟨?_, _, images, entries, buffers, image⟩
    rw [entries, List.map_append]
    exact image.nodup (Specs.ofBuffers_keys r.uniformBuffers)
  · intro s path words some_ found
    exact reflect_ok path some_ found

def crowded : Bytecode.Resources where
  uniformBuffers :=
    [⟨"Idle", 0, 0, []⟩,
     ⟨"Light", 0, 1, [⟨2, "a", 32, 16⟩, ⟨1, "b", 0, 4⟩, ⟨1, "a", 16, 16⟩, ⟨1, "a", 48, 8⟩]⟩,
     ⟨"Light", 3, 4, [⟨0, "c", 0, 4⟩]⟩,
     ⟨"Fog", 0, 2, [⟨0, "d", 0, 12⟩]⟩]
  sampledImages := [⟨"albedo", 2, 5⟩, ⟨"normals", 2, 6⟩]
  stageInputs := ["uv"]

theorem reflect_describes_crowded :
    Describes crowded (Specs.ofResources crowded) ∧
    (Library.reflect ⟨fun _ => .ok [], fun _ => .ok crowded⟩ (.ofText "lit.frag") [1]).result =
      .ok (⟨[("Light", ⟨"Light", 0, 1, .uniformBuffer, [⟨"b", 1, 0, 4⟩, ⟨"a", 1, 16, 16⟩]⟩),
        ("Fog", ⟨"Fog", 0, 2, .uniformBuffer, [⟨"d", 0, 0, 12⟩]⟩),
        ("albedo", ⟨"inputs", 2, 0, .inputTextures, []⟩)]⟩, ["uv"]) := by
  obtain ⟨described, reflected⟩ := reflect_describes crowded
  have found := reflected ⟨fun _ => .ok [], fun _ => .ok crowded⟩ (.ofText "lit.frag") [1] (by simp) rfl
  have specs : Specs.ofResources crowded =
      ⟨[("Light", ⟨"Light", 0, 1, .uniformBuffer, [⟨"b", 1, 0, 4⟩, ⟨"a", 1, 16, 16⟩]⟩),
        ("Fog", ⟨"Fog", 0, 2, .uniformBuffer, [⟨"d", 0, 0, 12⟩]⟩),
        ("albedo", ⟨"inputs", 2, 0, .inputTextures, []⟩)]⟩ := by decide
  refine ⟨described, ?_⟩
  rw [found, specs]
  rfl

end SceneGpu
