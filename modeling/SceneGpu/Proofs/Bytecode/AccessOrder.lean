import Mathlib.Data.List.Nodup
import SceneGpu.Proofs.Bytecode.ActiveMembers
import SceneGpu.Proofs.Bytecode.NestingLimit
/-!
The order of the accesses does not matter. Behind all declarations, loads, copies and access chains do
nothing but record what is read, and the same ones in another order record the same members in another
order: parsing fails on both, and each uniform buffer has the same ranges, each once, in some order.
-/
namespace SceneGpu

inductive Together {ε α β : Type} (R : α → β → Prop) : Except ε α → Except ε β → Prop
  | failed (e f : ε) : Together R (.error e) (.error f)
  | done {a : α} {b : β} (related : R a b) : Together R (.ok a) (.ok b)

section Together

variable {ε α β γ δ : Type} {R : α → β → Prop} {x : Except ε α} {y : Except ε β}

theorem Together.same {R : α → α → Prop} (all : ∀ a, R a a) (x : Except ε α) : Together R x x := by
  cases x with
  | error e => exact .failed e e
  | ok a => exact .done (all a)

theorem Together.imp {S : α → β → Prop} (together : Together R x y)
    (implied : ∀ a b, x = .ok a → y = .ok b → R a b → S a b) : Together S x y := by
  cases together with
  | failed e f => exact .failed e f
  | done related => exact .done (implied _ _ rfl rfl related)

theorem Together.map {S : γ → δ → Prop} {f : α → γ} {g : β → δ} (together : Together R x y)
    (related : ∀ a b, R a b → S (f a) (g b)) : Together S (x.map f) (y.map g) := by
  cases together with
  | failed e f => exact .failed e f
  | done here => exact .done (related _ _ here)

theorem Together.trans {S : β → γ → Prop} {T : α → γ → Prop} {z : Except ε γ}
    (first : Together R x y) (second : Together S y z) (joined : ∀ a b c, R a b → S b c → T a c) :
    Together T x z := by
  cases first with
  | failed e f =>
    cases second with
    | failed _ g => exact .failed e g
  | done here =>
    cases second with
    | done there => exact .done (joined _ _ _ here there)

end Together

namespace Bytecode

namespace Instruction

def accesses (i : Instruction) : Bool := decide (i.opcode.toNat ∈ [61, 63, 65, 66])

/-- A name, a decoration, a type, a constant or a variable: all that is not passed over, but for the
accesses. -/
def declares (i : Instruction) : Bool := (minOperands i.opcode).isSome && !i.accesses

theorem value?_of_accesses {i : Instruction} (access : i.accesses = true) (id : UInt32) :
    i.value? id = none := by
  have opcode : i.opcode.toNat ≠ 43 := by
    intro same
    simp [accesses, same] at access
  unfold value? mention?
  split
  · rename_i told
    split at told
    · rename_i here _
      exact absurd here opcode
    all_goals cases told
  · rfl

end Instruction

/-- No declaration stands behind an access. -/
def AccessesLast (is : List Instruction) : Prop :=
  is.Pairwise fun i j => i.accesses = true → j.declares = false

instance (is : List Instruction) : Decidable (AccessesLast is) :=
  inferInstanceAs (Decidable (is.Pairwise _))

def accessesOf (is : List Instruction) : List Instruction := is.filter (·.accesses)

def othersOf (is : List Instruction) : List Instruction := is.filter fun i => !i.accesses

theorem accesses_accessesOf (is : List Instruction) : ∀ i ∈ accessesOf is, i.accesses = true := by
  intro i mem
  exact (List.mem_filter.mp mem).2

namespace Declarations

theorem add_passed {i : Instruction} (noAccess : i.accesses = false) (noDeclaration : i.declares = false)
    (m : Declarations) : m.add i = m := by
  have foreign : minOperands i.opcode = none := by
    simpa [Instruction.declares, noAccess] using noDeclaration
  exact add_foreign foreign m

theorem readWhole_eq (m : Declarations) (id : UInt32) :
    m.readWhole id = { m with access := (m.readWhole id).access } := by
  unfold readWhole
  split <;> rfl

theorem readChain_eq (m : Declarations) (base : UInt32) (indices : List UInt32) :
    m.readChain base indices = { m with access := (m.readChain base indices).access } := by
  unfold readChain
  split <;> rfl

theorem add_access {i : Instruction} (access : i.accesses = true) (m : Declarations) :
    m.add i = { m with access := (m.add i).access } := by
  unfold add
  split
  all_goals first
    | rfl
    | exact readWhole_eq _ _
    | exact readChain_eq _ _ _
    | rename_i opcode _
      simp [Instruction.accesses, opcode] at access

theorem foldl_accesses {is : List Instruction} (accesses : ∀ i ∈ is, i.accesses = true)
    (m : Declarations) : is.foldl add m = { m with access := (is.foldl add m).access } := by
  induction is generalizing m with
  | nil => rfl
  | cons i rest ih =>
    have more := ih (fun j mem => accesses j (List.mem_cons_of_mem i mem)) (m.add i)
    rw [List.foldl_cons, more, add_access (accesses i List.mem_cons_self) m]

theorem foldl_passed {is : List Instruction}
    (passed : ∀ i ∈ is, i.accesses = false ∧ i.declares = false) (m : Declarations) :
    is.foldl add m = m := by
  induction is with
  | nil => rfl
  | cons i rest ih =>
    obtain ⟨noAccess, noDeclaration⟩ := passed i List.mem_cons_self
    rw [List.foldl_cons, add_passed noAccess noDeclaration]
    exact ih fun j mem => passed j (List.mem_cons_of_mem i mem)

theorem foldl_parted {is : List Instruction} (last : AccessesLast is) (m : Declarations) :
    is.foldl add m = (accessesOf is).foldl add ((othersOf is).foldl add m) := by
  induction is generalizing m with
  | nil => rfl
  | cons i rest ih =>
    obtain ⟨first, more⟩ := List.pairwise_cons.mp last
    rw [List.foldl_cons, ih more]
    cases access : i.accesses with
    | false => simp [accessesOf, othersOf, access]
    | true =>
      have passed : ∀ n : Declarations, (othersOf rest).foldl add n = n := by
        refine foldl_passed ?_
        intro j mem
        obtain ⟨here, noAccess⟩ := List.mem_filter.mp mem
        exact ⟨by simpa using noAccess, first j here access⟩
      have others : othersOf (i :: rest) = othersOf rest := by simp [othersOf, access]
      have accesses : accessesOf (i :: rest) = i :: accessesOf rest := by simp [accessesOf, access]
      rw [others, accesses, passed, passed, List.foldl_cons]

theorem foldl_othersOf {is : List Instruction} (last : AccessesLast is) :
    is.foldl add {} = { (othersOf is).foldl add {} with access := (is.foldl add {}).access } := by
  have parted := foldl_accesses (accesses_accessesOf is) ((othersOf is).foldl add {})
  rwa [← foldl_parted last] at parted

theorem accesses_of_mention {i : Instruction} {told : Mention} (mention : i.mention? = some told)
    (reads : (∃ source, told = .whole source) ∨ ∃ base indices, told = .chain base indices) :
    i.accesses = true := by
  unfold Instruction.mention? at mention
  split at mention
  case h_7 => cases mention
  case h_1 | h_2 =>
    cases mention
    rcases reads with ⟨_, eq⟩ | ⟨_, _, eq⟩ <;> cases eq
  all_goals
    rename_i opcode _
    simp [Instruction.accesses, opcode]

theorem access_othersOf (is : List Instruction) (id : UInt32) :
    ((othersOf is).foldl add {}).access id = none := by
  have noAccess : ∀ i ∈ othersOf is, i.accesses = false := by
    intro i mem
    simpa using (List.mem_filter.mp mem).2
  generalize othersOf is = others at noAccess
  induction others using List.reverseRecOn with
  | nil => rfl
  | append_singleton front i ih =>
    have before := ih fun j mem => noAccess j (List.mem_append_left _ mem)
    have here := noAccess i (List.mem_append_right front (List.mem_singleton_self i))
    rw [foldl_concat]
    rcases (front.foldl add {}).add_cases i with ⟨k, value, _, next⟩ | ⟨v, _, next⟩ |
      ⟨source, told, _⟩ | ⟨base, indices, told, _⟩ | ⟨_, _, _, same⟩
    · rw [next]
      exact before
    · rw [next]
      exact before
    · rw [accesses_of_mention told (.inl ⟨_, rfl⟩)] at here
      cases here
    · rw [accesses_of_mention told (.inr ⟨_, _, rfl⟩)] at here
      cases here
    · rw [same]
      exact before

section Scan

variable {accs : List Instruction}

theorem valueIn?_access {i : Instruction} (access : i.accesses = true) (earlier : List Instruction) :
    valueIn? (earlier ++ [i]) = valueIn? earlier := by
  funext id
  rw [valueIn?_concat, Instruction.value?_of_accesses access, Option.none_or]

theorem readWhole_accesses (accesses : ∀ i ∈ accs, i.accesses = true) (earlier : List Instruction)
    (id : UInt32) :
    ReadWhole id (scan earlier accs) ↔ ∃ i ∈ accs, i.readsWhole (valueIn? earlier) id = true := by
  induction accs generalizing earlier with
  | nil => simp [ReadWhole, scan]
  | cons i rest ih =>
    have more := ih (fun j mem => accesses j (List.mem_cons_of_mem i mem)) (earlier ++ [i])
    rw [valueIn?_access (accesses i List.mem_cons_self)] at more
    simp only [ReadWhole] at more
    simp [ReadWhole, scan, more]

theorem indexValues_accesses (accesses : ∀ i ∈ accs, i.accesses = true) (earlier : List Instruction)
    (place : Nat) (id : UInt32) :
    indexValues place id (scan earlier accs) =
      accs.filterMap (·.indexValue? place (valueIn? earlier) id) := by
  induction accs generalizing earlier with
  | nil => rfl
  | cons i rest ih =>
    have more := ih (fun j mem => accesses j (List.mem_cons_of_mem i mem)) (earlier ++ [i])
    rw [valueIn?_access (accesses i List.mem_cons_self)] at more
    simp only [indexValues] at more ⊢
    rw [scan, List.filterMap_cons, List.filterMap_cons, more]

end Scan

theorem nodup_eraseDups (l : List UInt32) : l.eraseDups.Nodup := by
  induction l using List.reverseRecOn with
  | nil => simp
  | append_singleton front a ih =>
    rw [eraseDups_concat]
    by_cases old : a ∈ front.eraseDups
    · rwa [if_pos old]
    · rw [if_neg old]
      exact (List.perm_append_singleton a _).nodup_iff.mpr (List.nodup_cons.mpr ⟨old, ih⟩)

theorem eraseDups_perm {l l' : List UInt32} (same : ∀ a, a ∈ l ↔ a ∈ l') :
    l.eraseDups.Perm l'.eraseDups := by
  rw [List.perm_ext_iff_of_nodup (nodup_eraseDups l) (nodup_eraseDups l')]
  intro a
  rw [List.mem_eraseDups, List.mem_eraseDups]
  exact same a

theorem nodup_memberIndices {members : List UInt32} (few : members.length < 2 ^ 32) :
    (memberIndices members).Nodup := by
  refine List.Nodup.of_map UInt32.toNat ?_
  rw [memberIndices_toNat few]
  exact List.nodup_range

/-- Each member that is read counts once, and the order of the accesses is all that their order decides. -/
theorem activeIndices_perm {front accs accs' : List Instruction}
    (accesses : ∀ i ∈ accs, i.accesses = true) (perm : accs.Perm accs') {v : Variable}
    (declared : (front.foldl add {}).isVariable v.id = true)
    (unread : (front.foldl add {}).access v.id = none) {members : List UInt32}
    (few : members.length < 2 ^ 32) :
    (((front ++ accs).foldl add {}).activeIndices v members).Nodup ∧
      (((front ++ accs).foldl add {}).activeIndices v members).Perm
        (((front ++ accs').foldl add {}).activeIndices v members) := by
  have accesses' : ∀ i ∈ accs', i.accesses = true := fun i mem => accesses i (perm.mem_iff.mpr mem)
  obtain ⟨covered, listed⟩ := members?_access declared unread accs
  obtain ⟨covered', listed'⟩ := members?_access declared unread accs'
  have same : ReadWhole v.id (scan front accs) ↔ ReadWhole v.id (scan front accs') := by
    rw [readWhole_accesses accesses, readWhole_accesses accesses']
    simp only [perm.mem_iff]
  rw [activeIndices_eq, activeIndices_eq]
  by_cases whole : ReadWhole v.id (scan front accs)
  · rw [covered whole, covered' (same.mp whole)]
    exact ⟨nodup_memberIndices few, .refl _⟩
  · rw [listed whole, listed' (whole ∘ same.mpr)]
    refine ⟨nodup_eraseDups _, eraseDups_perm ?_⟩
    intro index
    rw [indexValues_accesses accesses, indexValues_accesses accesses']
    exact (perm.filterMap _).mem_iff

theorem activeRanges_perm (d : Declarations) (block : UInt32) (members : List UInt32)
    {is js : List UInt32} (perm : is.Perm js) :
    Together List.Perm (d.activeRanges block members is) (d.activeRanges block members js) := by
  induction perm with
  | nil => exact .done (.refl [])
  | @cons index is js _ ih =>
    rw [activeRanges, activeRanges]
    generalize d.activeRanges block members is = xs at ih
    generalize d.activeRanges block members js = ys at ih
    cases d.activeRange? block members index with
    | error e => exact .failed e e
    | ok r =>
      cases ih with
      | failed e f => exact .failed e f
      | done more => exact .done (more.append_left r.toList)
  | swap i j rest =>
    rw [activeRanges, activeRanges, activeRanges, activeRanges]
    cases d.activeRange? block members i with
    | error e =>
      cases d.activeRange? block members j with
      | error f => exact .failed f e
      | ok r => exact .failed e e
    | ok q =>
      cases d.activeRange? block members j with
      | error f => exact .failed f f
      | ok r =>
        cases d.activeRanges block members rest with
        | error e => exact .failed e e
        | ok rs =>
          refine .done ?_
          rw [← List.append_assoc, ← List.append_assoc]
          exact List.perm_append_comm.append_right rs
  | trans _ _ first second => exact first.trans second fun _ _ _ => List.Perm.trans

theorem activeRanges_alike (d : Declarations) (block : UInt32) (members : List UInt32)
    {is js : List UInt32} (once : is.Nodup) (perm : is.Perm js) :
    Together (fun as bs => as.Perm bs ∧ (as.map (·.index)).Nodup) (d.activeRanges block members is)
      (d.activeRanges block members js) := by
  apply (activeRanges_perm d block members perm).imp
  intro as bs ranges _ same
  refine ⟨same, ?_⟩
  rw [(activeRanges_ok ranges).1]
  exact once.filter _

end Declarations

/-- The buffers agree but for the order of their ranges, of which no two have one index. -/
structure UniformBuffer.Alike (b c : UniformBuffer) : Prop where
  name : c.name = b.name
  set : c.set = b.set
  binding : c.binding = b.binding
  active : b.active.Perm c.active
  once : (b.active.map (·.index)).Nodup

inductive Resource.Alike : Resource → Resource → Prop
  | uniformBuffer {b c : UniformBuffer} (alike : b.Alike c) :
      Alike (.uniformBuffer b) (.uniformBuffer c)
  | sampledImage (i : SampledImage) : Alike (.sampledImage i) (.sampledImage i)
  | stageInput (name : String) : Alike (.stageInput name) (.stageInput name)

structure Resources.Alike (r s : Resources) : Prop where
  uniformBuffers : List.Forall₂ UniformBuffer.Alike r.uniformBuffers s.uniformBuffers
  sampledImages : s.sampledImages = r.sampledImages
  stageInputs : s.stageInputs = r.stageInputs

theorem Resources.Alike.ofList {rs ss : List Resource} (alike : List.Forall₂ Resource.Alike rs ss) :
    (Resources.ofList rs).Alike (Resources.ofList ss) := by
  induction alike with
  | nil => exact ⟨.nil, rfl, rfl⟩
  | cons here _ ih =>
    obtain ⟨buffers, images, inputs⟩ := ih
    cases here with
    | uniformBuffer here => exact ⟨.cons here buffers, images, inputs⟩
    | sampledImage i => exact ⟨buffers, congrArg (i :: ·) images, inputs⟩
    | stageInput name => exact ⟨buffers, images, congrArg (name :: ·) inputs⟩

namespace Declarations

section Access

variable (c : Declarations) (a : Table UInt32 Access)

theorem sized_access (member : Option (UInt32 × UInt32)) (type : UInt32) (levels : Nat) :
    { c with access := a }.sized member type levels = c.sized member type levels := by
  apply sized_congr
  · rfl
  · rfl
  · rfl
  · rfl
  · intro n t _ _
    rfl

theorem declaredSize_access : { c with access := a }.declaredSize = c.declaredSize := by
  funext member type
  unfold declaredSize
  rw [sized_access]

theorem baseType_access : { c with access := a }.baseType = c.baseType := by
  funext type
  unfold baseType
  apply unwrapped_congr
  intro n t _ _
  rfl

theorem pointee?_access : { c with access := a }.pointee? = c.pointee? := rfl

theorem activeRange?_access : { c with access := a }.activeRange? = c.activeRange? := by
  funext block members index
  unfold activeRange?
  rw [declaredSize_access c a]

theorem activeRange?_othersOf {is : List Instruction} (last : AccessesLast is) :
    (is.foldl add {}).activeRange? = ((othersOf is).foldl add {}).activeRange? := by
  rw [foldl_othersOf last]
  exact activeRange?_access _ _

theorem activeRanges_access (block : UInt32) (members indices : List UInt32) :
    { c with access := a }.activeRanges block members indices = c.activeRanges block members indices := by
  induction indices with
  | nil => rfl
  | cons index rest ih => rw [activeRanges, activeRanges, activeRange?_access, ih]

theorem sampledImage?_access : { c with access := a }.sampledImage? = c.sampledImage? := by
  funext v
  unfold sampledImage?
  rw [baseType_access]
  rfl

theorem stageInput?_access : { c with access := a }.stageInput? = c.stageInput? := by
  funext v
  unfold stageInput? isBuiltIn
  rw [baseType_access]
  rfl

end Access

section Reordered

variable {c : Declarations} {a a' : Table UInt32 Access} {v : Variable}

def ReadAlike (c : Declarations) (a a' : Table UInt32 Access) (v : Variable) : Prop :=
  ∀ block members, c.types block = some (.struct members) →
    ({ c with access := a }.activeIndices v members).Nodup ∧
      ({ c with access := a }.activeIndices v members).Perm
        ({ c with access := a' }.activeIndices v members)

theorem uniformBuffer?_alike (read : ReadAlike c a a' v) :
    Together (Option.Rel UniformBuffer.Alike) ({ c with access := a }.uniformBuffer? v)
      ({ c with access := a' }.uniformBuffer? v) := by
  have nothing : Option.Rel UniformBuffer.Alike none none := .none
  unfold uniformBuffer?
  rw [baseType_access c a, baseType_access c a', pointee?_access c a, pointee?_access c a']
  cases c.pointee? v.pointerType with
  | none => exact .done nothing
  | some pointee =>
    dsimp only
    cases c.baseType pointee with
    | error e => exact .failed e e
    | ok block =>
      dsimp only
      cases struct : c.types block with
      | none => exact .done nothing
      | some t =>
        cases t with
        | struct members =>
          dsimp only
          change Together _ (if c.isBlock block then _ else _) (if c.isBlock block then _ else _)
          by_cases isBlock : c.isBlock block = true
          · rw [if_pos isBlock, if_pos isBlock, activeRanges_access c a, activeRanges_access c a']
            obtain ⟨once, perm⟩ := read block members struct
            have together := activeRanges_alike c block members once perm
            generalize c.activeRanges block members ({ c with access := a }.activeIndices v members) = xs
              at together ⊢
            generalize c.activeRanges block members ({ c with access := a' }.activeIndices v members) = ys
              at together ⊢
            cases together with
            | failed e f => exact .failed e f
            | done same => exact .done (.some ⟨rfl, rfl, rfl, same.1, same.2⟩)
          · rw [if_neg isBlock, if_neg isBlock]
            exact .done nothing
        | _ => exact .done nothing

theorem resource?_alike (read : ReadAlike c a a' v) :
    Together (Option.Rel Resource.Alike) ({ c with access := a }.resource? v)
      ({ c with access := a' }.resource? v) := by
  unfold resource?
  rw [sampledImage?_access c a, sampledImage?_access c a', stageInput?_access c a,
    stageInput?_access c a']
  match v.storage.toNat with
  | 0 =>
    apply (Together.same (R := Eq) (fun _ => rfl) (c.sampledImage? v)).map
    rintro o _ rfl
    cases o with
    | none => exact .none
    | some i => exact .some (.sampledImage i)
  | 1 =>
    apply (Together.same (R := Eq) (fun _ => rfl) (c.stageInput? v)).map
    rintro o _ rfl
    cases o with
    | none => exact .none
    | some name => exact .some (.stageInput name)
  | 2 =>
    apply (uniformBuffer?_alike read).map
    intro o o' related
    cases related with
    | none => exact .none
    | some alike => exact .some (.uniformBuffer alike)
  | n + 3 => exact .done .none

theorem resourceList_alike {vs : List Variable} (read : ∀ v ∈ vs, ReadAlike c a a' v) :
    Together (List.Forall₂ Resource.Alike) ({ c with access := a }.resourceList vs)
      ({ c with access := a' }.resourceList vs) := by
  induction vs with
  | nil => exact .done .nil
  | cons v vs ih =>
    have first := resource?_alike (read v List.mem_cons_self)
    have others := ih fun u mem => read u (List.mem_cons_of_mem v mem)
    rw [resourceList, resourceList]
    generalize { c with access := a }.resource? v = x, { c with access := a' }.resource? v = x' at first
    generalize { c with access := a }.resourceList vs = y, { c with access := a' }.resourceList vs = y'
      at others
    cases first with
    | failed e f => exact .failed e f
    | done related =>
      cases others with
      | failed e f => exact .failed e f
      | done more =>
        refine .done ?_
        cases related with
        | none => exact more
        | some alike => exact .cons alike more

end Reordered

theorem resources_alike {front accs accs' : List Instruction}
    (accesses : ∀ i ∈ accs, i.accesses = true) (perm : accs.Perm accs')
    (unread : ∀ id, (front.foldl add {}).access id = none)
    (few : ∀ type members, (front.foldl add {}).types type = some (.struct members) →
      members.length < 2 ^ 32) :
    Together Resources.Alike ((front ++ accs).foldl add {}).resources
      ((front ++ accs').foldl add {}).resources := by
  have accesses' : ∀ i ∈ accs', i.accesses = true := fun i mem => accesses i (perm.mem_iff.mpr mem)
  have first := foldl_accesses accesses (front.foldl add {})
  have second := foldl_accesses accesses' (front.foldl add {})
  rw [← List.foldl_append] at first second
  have read : ∀ v ∈ (front.foldl add {}).globals,
      ReadAlike (front.foldl add {}) ((front ++ accs).foldl add {}).access
        ((front ++ accs').foldl add {}).access v := by
    intro v mem block members struct
    rw [← first, ← second]
    apply activeIndices_perm accesses perm ?_ (unread v.id) (few block members struct)
    exact List.any_eq_true.mpr ⟨v, mem, by simp⟩
  have alike := resourceList_alike read
  rw [first, second]
  exact alike.map fun _ _ => Resources.Alike.ofList

end Declarations

/-- Words of one header with the same instructions, but for the order of the accesses. All accesses come
behind the declarations. Where not all words are instructions, the rest is the same too. -/
structure Reordered (words words' : List UInt32) (is js : List Instruction) : Prop where
  header : words'.take headerWords = words.take headerWords
  body : ∃ front front' rest, words.drop headerWords = front ++ rest ∧
    words'.drop headerWords = front' ++ rest ∧ Splits front is ∧ Splits front' js ∧
    (rest = [] ∨ ∀ more, ¬ Splits rest more)
  accesses : (accessesOf is).Perm (accessesOf js)
  others : othersOf js = othersOf is
  last : AccessesLast is
  lastToo : AccessesLast js

theorem Splits.behind {front rest : List UInt32} {is all : List Instruction} (split : Splits front is)
    (whole : Splits (front ++ rest) all) : ∃ more, Splits rest more := by
  induction split generalizing all with
  | nil => exact ⟨all, whole⟩
  | @cons header operands more is counts _ ih =>
    generalize words_eq : header :: (operands ++ more) ++ rest = words at whole
    cases whole with
    | nil => cases words_eq
    | @cons _ operands' rest' is' counts' others =>
      rw [List.cons_append, List.append_assoc] at words_eq
      obtain ⟨rfl, tails⟩ := List.cons.inj words_eq
      have lengths : operands.length = operands'.length := by omega
      obtain ⟨rfl, rfl⟩ := List.append_inj tails lengths
      exact ih others

theorem mem_parts_iff (i : Instruction) (is : List Instruction) :
    i ∈ is ↔ i ∈ accessesOf is ∨ i ∈ othersOf is := by
  unfold accessesOf othersOf
  rw [List.mem_filter, List.mem_filter]
  cases i.accesses <;> simp

namespace Reordered

variable {words words' : List UInt32} {is js : List Instruction}

theorem symm (reordered : Reordered words words' is js) : Reordered words' words js is where
  header := reordered.header.symm
  body := by
    obtain ⟨front, front', rest, whole, whole', split, split', ends⟩ := reordered.body
    exact ⟨front', front, rest, whole', whole, split', split, ends⟩
  accesses := reordered.accesses.symm
  others := reordered.others.symm
  last := reordered.lastToo
  lastToo := reordered.last

theorem mem_iff (reordered : Reordered words words' is js) {i : Instruction} : i ∈ is ↔ i ∈ js := by
  rw [mem_parts_iff i is, mem_parts_iff i js, reordered.others, reordered.accesses.mem_iff]

theorem headed (reordered : Reordered words words' is js) (headed : Headed words) : Headed words' := by
  have lengths := congrArg List.length reordered.header
  rw [List.length_take, List.length_take, Nat.min_eq_left headed.long] at lengths
  have long : headerWords ≤ words'.length := by omega
  have first (l : List UInt32) : l.head? = (l.take headerWords).head? := by
    cases l <;> rfl
  exact ⟨long, by rw [first, reordered.header, ← first, headed.magic]⟩

theorem parse_ok (reordered : Reordered words words' is js) {d : Declarations}
    (parsed : parse words = .ok d) :
    d = is.foldl Declarations.add {} ∧ parse words' = .ok (js.foldl Declarations.add {}) := by
  obtain ⟨headed, all, split, complete, rfl⟩ := parse_ok_iff.mp parsed
  obtain ⟨front, front', rest, whole, whole', here, there, ends⟩ := reordered.body
  rw [whole] at split
  rcases ends with rfl | stray
  · rw [List.append_nil] at split whole'
    obtain rfl := here.unique split
    refine ⟨rfl, parse_ok_iff.mpr ⟨reordered.headed headed, js, ?_, ?_, rfl⟩⟩
    · rwa [whole']
    · intro i mem
      exact complete i (reordered.mem_iff.mpr mem)
  · obtain ⟨more, behind⟩ := here.behind split
    exact absurd behind (stray more)

theorem parse_error (reordered : Reordered words words' is js) {e : Fault}
    (refused : parse words = .error e) : ∃ f, parse words' = .error f := by
  cases other : parse words' with
  | error f => exact ⟨f, rfl⟩
  | ok d =>
    obtain ⟨_, parsed⟩ := reordered.symm.parse_ok other
    rw [refused] at parsed
    cases parsed

theorem introspect_together (reordered : Reordered words words' is js) :
    Together Resources.Alike (introspect words) (introspect words') := by
  unfold introspect
  cases parsed : parse words with
  | error e =>
    obtain ⟨f, other⟩ := reordered.parse_error parsed
    rw [other]
    exact .failed e f
  | ok d =>
    obtain ⟨rfl, other⟩ := reordered.parse_ok parsed
    rw [other]
    dsimp only
    rw [Declarations.foldl_parted reordered.last, Declarations.foldl_parted reordered.lastToo,
      reordered.others, ← List.foldl_append, ← List.foldl_append]
    apply Declarations.resources_alike _ reordered.accesses (Declarations.access_othersOf is)
    · intro type members found
      have types := congrArg Declarations.types (Declarations.foldl_othersOf reordered.last)
      rw [← types] at found
      exact Nat.lt_trans (struct_length_lt parsed found) (by decide)
    · exact accesses_accessesOf is

end Reordered
end Bytecode
end SceneGpu
