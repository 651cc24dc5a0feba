import SceneGpu.Proofs.Bytecode.AccessOrder
import SceneGpu.Proofs.Shader.Reflected
/-!
Stages that read the same members of a block agree on its spec. The ranges of a block come in the order
of the first accesses to them, and the spec has them in the order of the members, so what is left of the
accesses is which members they read.
-/
namespace SceneGpu

open Bytecode

/-- Ranges of distinct indices have one order that is sorted. -/
theorem activeMembers_perm {as bs : List ActiveRange} (perm : as.Perm bs)
    (once : (as.map (·.index)).Nodup) : activeMembers as = activeMembers bs := by
  have first := sortOn_perm (fun r : ActiveRange => r.index.toNat) as
  have second := sortOn_perm (fun r : ActiveRange => r.index.toNat) bs
  have sorted : sortOn (fun r : ActiveRange => r.index.toNat) as =
      sortOn (fun r : ActiveRange => r.index.toNat) bs := by
    apply List.Perm.eq_of_pairwise _ (sortOn_pairwise _ as) (sortOn_pairwise _ bs)
      (first.trans (perm.trans second.symm))
    intro a b here there below above
    have index : a.index = b.index := UInt32.toNat_inj.mp (Nat.le_antisymm below above)
    exact List.inj_on_of_nodup_map once (first.mem_iff.mp here)
      (perm.mem_iff.mpr (second.mem_iff.mp there)) index
  rw [activeMembers, activeMembers, sorted]

theorem bufferEntry?_alike {b c : UniformBuffer} (alike : b.Alike c) :
    Specs.bufferEntry? c = Specs.bufferEntry? b := by
  unfold Specs.bufferEntry?
  rw [alike.name, alike.set, alike.binding, activeMembers_perm alike.active alike.once]

theorem ofResources_alike {r s : Resources} (alike : r.Alike s) :
    Specs.ofResources s = Specs.ofResources r := by
  have entries : s.uniformBuffers.filterMap Specs.bufferEntry? =
      r.uniformBuffers.filterMap Specs.bufferEntry? := by
    have buffers := alike.uniformBuffers
    generalize r.uniformBuffers = bs, s.uniformBuffers = cs at buffers
    induction buffers with
    | nil => rfl
    | cons here _ ih => rw [List.filterMap_cons, List.filterMap_cons, bufferEntry?_alike here, ih]
  unfold Specs.ofResources Specs.ofBuffers
  rw [alike.sampledImages, entries]

theorem reflect_result {s : Services} (path : Path) {words : List UInt32} (filled : words ≠ []) :
    (Library.reflect s path words).result =
      match s.introspect words with
      | .error fault => .error ⟨["Failed to reflect " ++ path.display], .bytecode fault⟩
      | .ok r => .ok (Specs.ofResources r, r.stageInputs) := by
  unfold Library.reflect
  cases words with
  | nil => exact absurd rfl filled
  | cons w more =>
    dsimp only
    cases s.introspect (w :: more) with
    | error fault => rfl
    | ok r => rfl

theorem reflect_reordered {s : Services} (genuine : s.introspect = Bytecode.introspect) (path : Path)
    {words words' : List UInt32} {is js : List Instruction} (reordered : Reordered words words' is js) :
    Together Eq (Library.reflect s path words).result (Library.reflect s path words').result := by
  by_cases empty : words = []
  · subst empty
    have header : words'.take headerWords = [] := reordered.header
    have emptyToo : words' = [] := (List.take_eq_nil_iff.mp header).resolve_left (by decide)
    rw [emptyToo]
    exact .same (fun _ => rfl) _
  have filled : words' ≠ [] := by
    rintro rfl
    have header : words.take headerWords = [] := reordered.header.symm
    exact empty ((List.take_eq_nil_iff.mp header).resolve_left (by decide))
  have together := reordered.introspect_together
  rw [← genuine] at together
  rw [reflect_result path empty, reflect_result path filled]
  generalize s.introspect words = x, s.introspect words' = y at together
  cases together with
  | failed e f => exact .failed _ _
  | done alike =>
    dsimp only
    rw [ofResources_alike alike, alike.stageInputs]
    exact .done rfl

namespace Bytecode

namespace Declarations

variable {words : List UInt32} {d : Declarations} {r : Resources} {v : Variable} {b : UniformBuffer}
  {levels : Nat} {block : UInt32} {members : List UInt32}

theorem tellsMember_iff {a : ActiveRange} :
    d.TellsMember block members a ↔ d.activeRange? block members a.index = .ok (some a) := by
  unfold activeRange?
  constructor
  · rintro ⟨name, offset, type, here, size⟩
    rw [here]
    dsimp only
    rw [size, ← name, ← offset]
  · intro told
    split at told
    · cases told
    · rename_i type here
      split at told
      · cases told
      · rename_i range size
        have eq := Option.some.inj (Except.ok.inj told)
        have name := congrArg ActiveRange.name eq
        have offset := congrArg ActiveRange.offset eq
        have same := congrArg ActiveRange.range eq
        exact ⟨name.symm, offset.symm, type, here, by rw [size, ← same]⟩

theorem Reports.tellsBlock (reports : d.Reports r v b) (parsed : parse words = .ok d)
    (introspected : introspect words = .ok r) (points : d.PointsToBlock v levels block members) :
    d.TellsBlock v block b := by
  obtain ⟨rs, listed, rfl⟩ := introspect_ok parsed introspected
  obtain ⟨k, here, there⟩ := reports
  obtain ⟨inside, rfl⟩ := List.getElem?_eq_some_iff.mp here
  obtain ⟨insideToo, rfl⟩ := List.getElem?_eq_some_iff.mp there
  have own := (List.forall₂_iff_get.mp (resourceList_buffers listed)).2 k inside insideToo
  obtain ⟨c, same, tells, _⟩ := uniformBuffer?_block points own
  obtain rfl := Option.some.inj same
  exact tells

theorem ActiveAfter.indices {id : UInt32} {later : List (List Instruction × Instruction)}
    {active : List ActiveRange} (after : d.ActiveAfter id block members later active) :
    (active.map (·.index)).Nodup ∧
      ∀ index, index ∈ active.map (·.index) ↔
        index.toNat < members.length ∧ (ReadWhole id later ∨ index ∈ indexValues 0 id later) := by
  by_cases whole : ReadWhole id later
  · have all := after.whole whole
    have places : (active.map (·.index)).map UInt32.toNat = List.range members.length := by
      rw [List.map_map]
      exact all
    constructor
    · refine List.Nodup.of_map UInt32.toNat ?_
      rw [places]
      exact List.nodup_range
    · intro index
      rw [← List.mem_range, ← places, List.mem_map_of_injective fun _ _ => UInt32.toNat_inj.mp]
      simp [whole]
  · have some_ := after.partly whole
    rw [some_]
    refine ⟨(nodup_eraseDups _).filter _, ?_⟩
    intro index
    rw [List.mem_filter, List.mem_eraseDups, decide_eq_true_eq]
    simp [whole, and_comm]

end Declarations

end Bytecode

/-- A stage that declares a uniform block, with what is reported about the stage. -/
structure BlockStage where
  words : List UInt32
  module : Declarations
  found : Resources
  v : Variable
  front : List Instruction
  decl : Instruction
  back : List Instruction
  levels : Nat
  block : UInt32
  members : List UInt32
  parsed : parse words = .ok module
  introspected : Bytecode.introspect words = .ok found
  declared : DeclaresUniform words v front decl back
  points : module.PointsToBlock v levels block members

namespace BlockStage

def name (b : BlockStage) : String :=
  ((b.module.name? b.block).or (b.module.name? b.v.id)).getD ""

def member? (b : BlockStage) (index : UInt32) : Option (Option ActiveRange) :=
  (b.module.activeRange? b.block b.members index).toOption

def Reads (b : BlockStage) (index : UInt32) : Prop :=
  ReadWhole b.v.id (scan (b.front ++ [b.decl]) b.back) ∨
    index ∈ indexValues 0 b.v.id (scan (b.front ++ [b.decl]) b.back)

theorem reads_iff {b : BlockStage} (partly : ¬ ReadWhole b.v.id (scan (b.front ++ [b.decl]) b.back))
    {index : UInt32} :
    b.Reads index ↔ index ∈ indexValues 0 b.v.id (scan (b.front ++ [b.decl]) b.back) :=
  or_iff_right partly

structure Same (b c : BlockStage) : Prop where
  name : c.name = b.name
  set : c.module.setOf c.v.id = b.module.setOf b.v.id
  binding : c.module.bindingOf c.v.id = b.module.bindingOf b.v.id
  member : ∀ index, c.member? index = b.member? index

theorem member?_eq_some {b : BlockStage} {index : UInt32} {a : ActiveRange}
    (there : b.member? index = some (some a)) :
    b.module.activeRange? b.block b.members index = .ok (some a) := by
  unfold member? at there
  cases range : b.module.activeRange? b.block b.members index with
  | error e =>
    rw [range] at there
    cases there
  | ok o =>
    rw [range] at there
    rw [Option.some.inj there]

theorem exists_buffer (b : BlockStage) :
    ∃ x, b.module.Reports b.found b.v x ∧ b.module.TellsBlock b.v b.block x ∧
      (x.active.map (·.index)).Nodup ∧
      ∀ a, a ∈ x.active ↔ b.Reads a.index ∧ b.member? a.index = some (some a) := by
  obtain ⟨x, reports, after⟩ := Declarations.active_declared b.parsed b.introspected b.declared b.points
  obtain ⟨once, indices⟩ := after.indices
  have tells : ∀ a ∈ x.active, b.member? a.index = some (some a) := by
    intro a mem
    rw [member?, Declarations.tellsMember_iff.mp (after.tells a mem)]
    rfl
  refine ⟨x, reports, reports.tellsBlock b.parsed b.introspected b.points, once, ?_⟩
  intro a
  constructor
  · intro mem
    exact ⟨((indices a.index).mp (List.mem_map_of_mem mem)).2, tells a mem⟩
  · rintro ⟨reads, there⟩
    obtain ⟨_, _, type, here, _⟩ := Declarations.tellsMember_iff.mpr (member?_eq_some there)
    have within := (List.getElem?_eq_some_iff.mp here).1
    obtain ⟨other, mem, same⟩ := List.mem_map.mp ((indices a.index).mpr ⟨within, reads⟩)
    have told := tells other mem
    rw [same, there] at told
    rwa [Option.some.inj (Option.some.inj told)]

theorem Same.alike {b c : BlockStage} (same : b.Same c)
    (reads : ∀ index, index.toNat < b.members.length → (b.Reads index ↔ c.Reads index)) :
    ∃ x y, b.module.Reports b.found b.v x ∧ c.module.Reports c.found c.v y ∧ x.Alike y := by
  obtain ⟨x, reports, tells, once, active⟩ := b.exists_buffer
  obtain ⟨y, reportsToo, tellsToo, onceToo, activeToo⟩ := c.exists_buffer
  refine ⟨x, y, reports, reportsToo, ?_⟩
  constructor
  · rw [tells.name, tellsToo.name]
    exact same.name
  · rw [tells.set, tellsToo.set]
    exact same.set
  · rw [tells.binding, tellsToo.binding]
    exact same.binding
  · rw [List.perm_ext_iff_of_nodup once.of_map onceToo.of_map]
    intro a
    rw [active, activeToo, same.member]
    apply and_congr_left
    intro there
    obtain ⟨_, _, type, here, _⟩ := Declarations.tellsMember_iff.mpr (member?_eq_some there)
    exact reads a.index (List.getElem?_eq_some_iff.mp here).1
  · exact once

end BlockStage

theorem get?_firstActive {r : Resources} {i : Nat} {b : UniformBuffer}
    (first : FirstActive r.uniformBuffers i b) :
    (Specs.ofResources r).get? b.name = some (Specs.bufferEntry b).2 := by
  obtain ⟨here, new⟩ := first
  have found : (activeBuffers r.uniformBuffers).find? (fun c => c.name = b.name) = some b := by
    obtain ⟨inside, there⟩ := List.getElem?_eq_some_iff.mp here
    refine List.find?_eq_some_iff_getElem.mpr ⟨by simp, i, inside, there, ?_⟩
    intro j before
    have other := new j _ before (List.getElem?_eq_getElem (Nat.lt_trans before inside))
    simpa using other
  obtain ⟨images, entries, _⟩ := Specs.ofResources_entries r
  rw [Specs.get?, entries, List.find?_append, Specs.ofBuffers_entries, List.find?_map]
  have same : ((fun e : String × Spec => decide (e.1 = b.name)) ∘ Specs.bufferEntry) =
      fun c => decide (c.name = b.name) := rfl
  rw [same, find?_firstsOn, found]
  rfl

theorem bufferEntry_alike {b c : UniformBuffer} (alike : b.Alike c) :
    Specs.bufferEntry c = Specs.bufferEntry b := by
  unfold Specs.bufferEntry
  rw [alike.name, alike.set, alike.binding, activeMembers_perm alike.active alike.once]

/-- Which members are read decides what is reflected, in whatever order and however often they are. Words
whose accesses are reordered both fail, or both have the same specs and inputs; and the same block has one
spec in all stages that read the same of its members. -/
theorem reflect_order_free :
    (∀ (s : Services) (path : Path) (words words' : List UInt32) (is js : List Instruction),
      s.introspect = Bytecode.introspect → Reordered words words' is js →
        Together Eq (Library.reflect s path words).result (Library.reflect s path words').result) ∧
    ∀ b c : BlockStage, b.Same c →
      (∀ index, index.toNat < b.members.length → (b.Reads index ↔ c.Reads index)) →
        ∃ x y, b.module.Reports b.found b.v x ∧ c.module.Reports c.found c.v y ∧
          Specs.bufferEntry? y = Specs.bufferEntry? x ∧
          ∀ i j, FirstActive b.found.uniformBuffers i x → FirstActive c.found.uniformBuffers j y →
            ∃ spec, (Specs.ofResources b.found).get? x.name = some spec ∧
              (Specs.ofResources c.found).get? x.name = some spec := by
  constructor
  · intro s path words words' is js genuine reordered
    exact reflect_reordered genuine path reordered
  · intro b c same reads
    obtain ⟨x, y, reports, reportsToo, alike⟩ := same.alike reads
    refine ⟨x, y, reports, reportsToo, bufferEntry?_alike alike, ?_⟩
    intro i j first firstToo
    refine ⟨_, get?_firstActive first, ?_⟩
    have other := get?_firstActive firstToo
    rwa [bufferEntry_alike alike, alike.name] at other

namespace TwoStages

open TwoVectors

def briefChains : List Instruction := [⟨66, [12, 13, 11, 5]⟩, ⟨65, [12, 14, 11, 6]⟩]

theorem parse_memberChains : parse (words 3 memberChains) = .ok (made 3 memberChains) :=
  parse_encode ⟨by decide, rfl⟩ rfl (by decide) (by decide)

theorem parse_briefChains : parse (words 3 briefChains) = .ok (made 3 briefChains) :=
  parse_encode ⟨by decide, rfl⟩ rfl (by decide) (by decide)

def long : BlockStage where
  words := words 3 memberChains
  module := made 3 memberChains
  found := ⟨[⟨"", 0, 0, [⟨1, "", 16, 16⟩, ⟨0, "", 0, 16⟩]⟩], [], []⟩
  v := uniform
  front := front 3
  decl := decl
  back := back memberChains
  levels := 0
  block := 3
  members := [2, 2]
  parsed := parse_memberChains
  introspected := by
    unfold Bytecode.introspect
    rw [parse_memberChains]
    rfl
  declared := ⟨splits_encode (by decide), rfl, rfl, by decide⟩
  points := ⟨⟨3, rfl, .bare⟩, rfl, rfl⟩

def brief : BlockStage where
  words := words 3 briefChains
  module := made 3 briefChains
  found := ⟨[⟨"", 0, 0, [⟨0, "", 0, 16⟩, ⟨1, "", 16, 16⟩]⟩], [], []⟩
  v := uniform
  front := front 3
  decl := decl
  back := back briefChains
  levels := 0
  block := 3
  members := [2, 2]
  parsed := parse_briefChains
  introspected := by
    unfold Bytecode.introspect
    rw [parse_briefChains]
    rfl
  declared := ⟨splits_encode (by decide), rfl, rfl, by decide⟩
  points := ⟨⟨3, rfl, .bare⟩, rfl, rfl⟩

theorem same_long_brief : long.Same brief := by
  have last : AccessesLast (front 3 ++ decl :: back memberChains) := by decide
  have lastToo : AccessesLast (front 3 ++ decl :: back briefChains) := by decide
  have others : othersOf (front 3 ++ decl :: back briefChains) =
      othersOf (front 3 ++ decl :: back memberChains) := by decide
  constructor
  · decide +kernel
  · decide +kernel
  · decide +kernel
  · intro index
    change ((made 3 briefChains).activeRange? 3 [2, 2] index).toOption =
      ((made 3 memberChains).activeRange? 3 [2, 2] index).toOption
    unfold made
    rw [Declarations.activeRange?_othersOf last, Declarations.activeRange?_othersOf lastToo, others]

theorem reordered_reverse :
    Reordered (words 3 memberChains) (words 3 memberChains.reverse)
      (front 3 ++ decl :: back memberChains) (front 3 ++ decl :: back memberChains.reverse) where
  header := rfl
  body := by
    refine ⟨_, _, [], (List.append_nil _).symm, (List.append_nil _).symm, ?_, ?_, .inl rfl⟩
    · exact splits_encode (by decide)
    · exact splits_encode (by decide)
  accesses := by decide
  others := by decide
  last := by decide
  lastToo := by decide

def genuine : Services := ⟨fun _ => .ok [], Bytecode.introspect⟩

theorem long_reads (index : UInt32) : long.Reads index ↔ index ∈ ([1, 0, 9, 1] : List UInt32) := by
  have partly : ¬ ReadWhole long.v.id (scan (long.front ++ [long.decl]) long.back) := by
    unfold ReadWhole
    decide +kernel
  have values : indexValues 0 long.v.id (scan (long.front ++ [long.decl]) long.back) =
      [1, 0, 9, 1] := by decide +kernel
  rw [BlockStage.reads_iff partly, values]

theorem brief_reads (index : UInt32) : brief.Reads index ↔ index ∈ ([0, 1] : List UInt32) := by
  have partly : ¬ ReadWhole brief.v.id (scan (brief.front ++ [brief.decl]) brief.back) := by
    unfold ReadWhole
    decide +kernel
  have values : indexValues 0 brief.v.id (scan (brief.front ++ [brief.decl]) brief.back) =
      [0, 1] := by decide +kernel
  rw [BlockStage.reads_iff partly, values]

end TwoStages

open TwoVectors TwoStages

theorem reflect_order_free_two_stages :
    Bytecode.introspect (words 3 memberChains) = .ok long.found ∧
    Together Eq (Library.reflect genuine (.ofText "lit.vert") (words 3 memberChains)).result
      (Library.reflect genuine (.ofText "lit.vert") (words 3 memberChains.reverse)).result ∧
    ∃ x y, long.module.Reports long.found uniform x ∧ brief.module.Reports brief.found uniform y ∧
      Specs.bufferEntry? y = Specs.bufferEntry? x := by
  obtain ⟨reordered, shared⟩ := reflect_order_free
  have reads : ∀ index, index.toNat < long.members.length → (long.Reads index ↔ brief.Reads index) := by
    intro index within
    rw [long_reads, brief_reads]
    have place : index = 0 ∨ index = 1 := by
      have two : index.toNat < 2 := within
      rw [← UInt32.toNat_inj, ← UInt32.toNat_inj]
      change index.toNat = 0 ∨ index.toNat = 1
      omega
    rcases place with rfl | rfl
    · decide
    · decide
  obtain ⟨x, y, first, second, same, _⟩ := shared long brief same_long_brief reads
  exact ⟨long.introspected, reordered _ _ _ _ _ _ rfl reordered_reverse, x, y, first, second, same⟩

end SceneGpu
