import SceneGpu.Proofs.Shader.Reflected
/-!
How much of a uniform buffer its spec makes room for: all active ranges that lead their name. A block
whose members have no names counts as one of whose members all have the same.
-/
namespace SceneGpu

theorem foldl_max_le_iff {l : List Nat} {start n : Nat} :
    l.foldl max start ≤ n ↔ start ≤ n ∧ ∀ k ∈ l, k ≤ n := by
  induction l generalizing start with
  | nil => simp
  | cons a rest ih =>
    rw [List.foldl_cons, ih, List.forall_mem_cons, Nat.max_le, and_assoc]

theorem Spec.size_le_iff {s : Spec} {n : Nat} : s.size ≤ n ↔ ∀ m ∈ s.members, m.stop ≤ n := by
  rw [Spec.size, foldl_max_le_iff, List.forall_mem_map]
  exact and_iff_right (Nat.zero_le n)

section Covers

variable {ranges : List Bytecode.ActiveRange} {s : Spec}

theorem size_le_iff_leads (members : MembersOf ranges s.members) {n : Nat} :
    s.size ≤ n ↔ ∀ i r, Leads ranges i r → (Member.ofRange r).stop ≤ n := by
  rw [Spec.size_le_iff]
  constructor
  · intro below i r leads
    exact below _ ((members.leading _).mpr ⟨i, r, leads, rfl⟩)
  · intro below m mem
    obtain ⟨i, r, leads, rfl⟩ := (members.leading m).mp mem
    exact below i r leads

theorem leads_of_nodup (distinct : (ranges.map (·.name)).Nodup) {i : Nat}
    {r : Bytecode.ActiveRange} (here : ranges[i]? = some r) : Leads ranges i r := by
  refine ⟨here, ?_⟩
  intro j other there same
  have bound : j < (ranges.map (·.name)).length := by
    rw [List.length_map]
    exact (List.getElem?_eq_some_iff.mp there).1
  have names : (ranges.map (·.name))[j]? = (ranges.map (·.name))[i]? := by
    rw [List.getElem?_map, List.getElem?_map, there, here, Option.map_some, Option.map_some, same]
  obtain rfl : j = i := (List.getElem?_inj bound distinct).mp names
  rw [here, Option.some.injEq] at there
  subst there
  exact .inr ⟨rfl, Nat.le_refl j⟩

theorem stop_le_size (members : MembersOf ranges s.members)
    (distinct : (ranges.map (·.name)).Nodup) {r : Bytecode.ActiveRange} (mem : r ∈ ranges) :
    (Member.ofRange r).stop ≤ s.size := by
  obtain ⟨i, here⟩ := List.mem_iff_getElem?.mp mem
  exact (size_le_iff_leads members).mp (Nat.le_refl _) i r (leads_of_nodup distinct here)

end Covers

theorem exists_of_mem_right {α β : Type} {R : α → β → Prop} {as : List α} {bs : List β}
    (all : List.Forall₂ R as bs) {b : β} (mem : b ∈ bs) : ∃ a, R a b := by
  induction all with
  | nil => cases mem
  | cons here _ ih =>
    rcases List.mem_cons.mp mem with rfl | mem
    · exact ⟨_, here⟩
    · exact ih mem

theorem exists_firstActive {r : Bytecode.Resources} {e : String × Spec}
    (mem : e ∈ (Specs.ofResources r).entries) (kind : e.2.kind = .uniformBuffer) :
    ∃ i b, FirstActive r.uniformBuffers i b ∧ BufferEntry b e := by
  obtain ⟨images, entries, image⟩ := Specs.ofResources_entries r
  rw [entries, List.mem_append] at mem
  rcases mem with mem | mem
  · obtain ⟨places, _, _, elements⟩ := Specs.bufferEntries_ofBuffers r.uniformBuffers
    obtain ⟨i, b, first, entry⟩ := exists_of_mem_right elements mem
    exact ⟨i, b, first, entry⟩
  · exfalso
    cases image with
    | present i _ _ _ =>
      obtain rfl := List.mem_singleton.mp mem
      cases kind
    | absent _ => cases mem

/-- A spec that is registered from bytecode has room for the active ranges that lead their name, and no
more; where all names differ, for all active ranges. -/
theorem size_of_reflected {s : Services} {path : Path} {words : List UInt32} {specs : Specs}
    {inputs : List String} (own : s.introspect = Bytecode.introspect)
    (reflected : (Library.reflect s path words).result = .ok (specs, inputs)) :
    ∀ e ∈ specs.entries, e.2.kind = .uniformBuffer →
      ∃ r i b, Bytecode.introspect words = .ok r ∧ FirstActive r.uniformBuffers i b ∧
        BufferEntry b e ∧
        (∀ n, e.2.size ≤ n ↔ ∀ j a, Leads b.active j a → (Member.ofRange a).stop ≤ n) ∧
        ((b.active.map (·.name)).Nodup → ∀ a ∈ b.active, (Member.ofRange a).stop ≤ e.2.size) := by
  intro e mem kind
  unfold Library.reflect at reflected
  cases words with
  | nil =>
    cases reflected
    cases mem
  | cons w more =>
    dsimp only at reflected
    rw [own] at reflected
    cases found : Bytecode.introspect (w :: more) with
    | error fault =>
      rw [found] at reflected
      cases reflected
    | ok r =>
      rw [found] at reflected
      cases reflected
      obtain ⟨i, b, first, entry⟩ := exists_firstActive mem kind
      refine ⟨r, i, b, rfl, first, entry, fun n => size_le_iff_leads entry.members, ?_⟩
      intro distinct a mem
      exact stop_le_size entry.members distinct mem

def blockShader (names : List UInt32) : List UInt32 :=
  [119734787, 65536, 0, 12, 0, 131089, 1, 196622, 0, 1, 327695, 0, 3, 1852399981, 0] ++ names ++
  [196679, 6, 2, 327752, 6, 0, 35, 0, 327752, 6, 1, 35, 16, 262215, 8, 34, 0, 262215, 8, 33, 0,
   131091, 1, 196641, 2, 1, 196630, 4, 32, 262167, 5, 4, 4, 262174, 6, 5, 5, 262176, 7, 2, 6,
   262203, 7, 8, 2, 327734, 1, 3, 0, 2, 131320, 9, 262205, 6, 10, 8, 65789, 65592]

def block (first second : String) : Bytecode.UniformBuffer :=
  ⟨"", 0, 0, [⟨0, first, 0, 16⟩, ⟨1, second, 16, 16⟩]⟩

theorem ok_of_toOption {r : Bytecode.Resources} {x : Except Bytecode.Fault Bytecode.Resources}
    (found : x.toOption = some r) : x = .ok r := by
  cases x with
  | error fault => cases found
  | ok s =>
    cases found
    rfl

theorem introspect_nameless : Bytecode.introspect (blockShader []) = .ok ⟨[block "" ""], [], []⟩ :=
  ok_of_toOption (by decide +kernel)

theorem introspect_named :
    Bytecode.introspect (blockShader [262150, 6, 0, 97, 262150, 6, 1, 98]) =
      .ok ⟨[block "a" "b"], [], []⟩ :=
  ok_of_toOption (by decide +kernel)

theorem firstActive_block (first second : String) :
    FirstActive [block first second] 0 (block first second) := by
  refine ⟨rfl, ?_⟩
  intro j c before
  exact absurd before (Nat.not_lt_zero j)

/-- Without names the second vector counts as a double of the first, and has no room. -/
theorem size_too_small_nameless :
    ¬ ∀ words r, Bytecode.introspect words = .ok r →
      ∀ e ∈ (Specs.ofResources r).entries, e.2.kind = .uniformBuffer →
        ∀ i b, FirstActive r.uniformBuffers i b → BufferEntry b e →
          ∀ a ∈ b.active, (Member.ofRange a).stop ≤ e.2.size := by
  intro roomy
  have entry : BufferEntry (block "" "") (Specs.bufferEntry (block "" "")) :=
    Specs.bufferEntry_of_active (by decide)
  have room := roomy _ _ introspect_nameless (Specs.bufferEntry (block "" "")) (by decide) rfl 0 _
    (firstActive_block "" "") entry ⟨1, "", 16, 16⟩ (by decide)
  exact absurd room (by decide)

theorem size_of_reflected_named :
    let s : Services := ⟨fun _ => .ok [], Bytecode.introspect⟩
    let words := blockShader [262150, 6, 0, 97, 262150, 6, 1, 98]
    let specs : Specs := ⟨[Specs.bufferEntry (block "a" "b")]⟩
    (Library.reflect s (.ofText "tint.vert") words).result = .ok (specs, []) ∧
      ∀ a ∈ (block "a" "b").active, (Member.ofRange a).stop ≤ 32 := by
  intro s words specs
  have found : s.introspect words = .ok ⟨[block "a" "b"], [], []⟩ := introspect_named
  have reflected : (Library.reflect s (.ofText "tint.vert") words).result = .ok (specs, []) :=
    reflect_ok _ (List.cons_ne_nil _ _) found
  refine ⟨reflected, ?_⟩
  have covered := size_of_reflected rfl reflected _ List.mem_cons_self rfl
  obtain ⟨r, i, b, found, ⟨first, _⟩, _, _, all⟩ := covered
  cases introspect_named.symm.trans found
  obtain rfl : b = block "a" "b" := by
    have mem := List.mem_of_getElem? first
    simpa [activeBuffers, block] using mem
  exact all (by decide)

end SceneGpu
