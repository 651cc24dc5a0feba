import Mathlib.Data.List.Forall2
import Mathlib.Data.List.Nodup
import SceneGpu.Collection
/-!
Keeping the first element of each key: what is kept, and that it is what a search for the key finds.
Sorting by a key: a search in the sorted list finds the lowest key, and the first element among equals.
-/
namespace SceneGpu

section Firsts

variable {α κ : Type} [DecidableEq κ] (key : α → κ)

theorem find?_firstsBeyond (k : κ) (seen : List κ) (l : List α) (new : k ∉ seen) :
    (firstsBeyond key seen l).find? (fun a => key a = k) = l.find? (fun a => key a = k) := by
  induction l generalizing seen with
  | nil => rfl
  | cons a rest ih =>
    simp only [firstsBeyond]
    by_cases here : key a = k
    · simp [here, new]
    · split
      · simp [here, ih seen new]
      · have later : k ∉ key a :: seen := by simp [new, Ne.symm here]
        simp [here, ih _ later]

theorem find?_firstsOn (k : κ) (l : List α) :
    (firstsOn key l).find? (fun a => key a = k) = l.find? (fun a => key a = k) :=
  find?_firstsBeyond key k [] l (List.not_mem_nil)

theorem firstsBeyond_sublist (seen : List κ) (l : List α) : (firstsBeyond key seen l).Sublist l := by
  induction l generalizing seen with
  | nil => exact List.Sublist.slnil
  | cons a rest ih =>
    rw [firstsBeyond]
    split
    · exact (ih seen).cons a
    · exact (ih (key a :: seen)).cons_cons a

theorem firstsOn_sublist (l : List α) : (firstsOn key l).Sublist l := firstsBeyond_sublist key [] l

theorem notMem_seen {seen : List κ} {l : List α} {a : α} (mem : a ∈ firstsBeyond key seen l) :
    key a ∉ seen := by
  induction l generalizing seen with
  | nil => cases mem
  | cons b rest ih =>
    rw [firstsBeyond] at mem
    split at mem
    · exact ih mem
    · rename_i new
      rcases List.mem_cons.mp mem with rfl | mem
      · exact new
      · intro old
        exact ih mem (List.mem_cons_of_mem _ old)

theorem nodup_firstsBeyond (seen : List κ) (l : List α) :
    ((firstsBeyond key seen l).map key).Nodup := by
  induction l generalizing seen with
  | nil => exact List.nodup_nil
  | cons a rest ih =>
    rw [firstsBeyond]
    split
    · exact ih seen
    · rw [List.map_cons, List.nodup_cons]
      refine ⟨?_, ih _⟩
      intro again
      obtain ⟨b, mem, same⟩ := List.mem_map.mp again
      apply notMem_seen key mem
      rw [same]
      exact List.mem_cons_self

theorem nodup_firstsOn (l : List α) : ((firstsOn key l).map key).Nodup :=
  nodup_firstsBeyond key [] l

theorem mem_firstsOn {a : α} {l : List α} :
    a ∈ firstsOn key l ↔ l.find? (fun b => key b = key a) = some a := by
  rw [← find?_firstsOn key (key a) l]
  constructor
  · intro mem
    obtain ⟨front, back, whole⟩ := List.append_of_mem mem
    have distinct := nodup_firstsOn key l
    rw [whole] at distinct ⊢
    rw [List.map_append, List.map_cons, List.nodup_append] at distinct
    refine List.find?_eq_some_iff_append.mpr ⟨by simp, front, back, rfl, ?_⟩
    intro b before
    have other := distinct.2.2 (key b) (List.mem_map_of_mem before) (key a) List.mem_cons_self
    simp [other]
  · intro found
    exact List.mem_of_find?_eq_some found

theorem mem_map_firstsOn {k : κ} {l : List α} : k ∈ (firstsOn key l).map key ↔ k ∈ l.map key := by
  constructor
  · intro mem
    exact ((firstsOn_sublist key l).map key).subset mem
  · intro mem
    obtain ⟨a, mem, keyed⟩ := List.mem_map.mp mem
    -- a search for the key finds the first that has it
    have some_ : (l.find? fun b => key b = k).isSome = true :=
      List.find?_isSome.mpr ⟨a, mem, decide_eq_true keyed⟩
    obtain ⟨b, found⟩ := Option.isSome_iff_exists.mp some_
    have same : key b = k := by simpa using List.find?_some found
    refine List.mem_map.mpr ⟨b, (mem_firstsOn key).mpr ?_, same⟩
    rw [same]
    exact found

theorem firstsOn_eq_nil {l : List α} : firstsOn key l = [] ↔ l = [] := by
  constructor
  · intro none_
    cases l with
    | nil => rfl
    | cons a rest => simp [firstsOn, firstsBeyond] at none_
  · rintro rfl
    rfl

theorem firstsBeyond_congr {seen other : List κ} (same : ∀ k, k ∈ seen ↔ k ∈ other) (l : List α) :
    firstsBeyond key seen l = firstsBeyond key other l := by
  induction l generalizing seen other with
  | nil => rfl
  | cons a rest ih =>
    have more : ∀ k, k ∈ key a :: seen ↔ k ∈ key a :: other := by
      intro k
      rw [List.mem_cons, List.mem_cons, same k]
    rw [firstsBeyond, firstsBeyond, ih same, ih more, if_congr (same (key a)) rfl rfl]

theorem firstsBeyond_map {β : Type} (f : β → α) (seen : List κ) (l : List β) :
    firstsBeyond key seen (l.map f) = (firstsBeyond (fun b => key (f b)) seen l).map f := by
  induction l generalizing seen with
  | nil => rfl
  | cons b rest ih =>
    rw [List.map_cons, firstsBeyond, firstsBeyond, ih, ih]
    split
    · rfl
    · rfl

/-- The places of the elements whose key is not seen and stands at no earlier place. -/
def FirstAt (seen : List κ) (l : List α) (i : Nat) : Prop :=
  ∃ a, l[i]? = some a ∧ key a ∉ seen ∧ ∀ j b, j < i → l[j]? = some b → key b ≠ key a

omit [DecidableEq κ] in
theorem firstAt_zero {seen : List κ} {a : α} {rest : List α} :
    FirstAt key seen (a :: rest) 0 ↔ key a ∉ seen := by
  constructor
  · rintro ⟨b, here, new, _⟩
    cases here
    exact new
  · intro new
    refine ⟨a, rfl, new, ?_⟩
    intro j b before
    exact absurd before (Nat.not_lt_zero j)

omit [DecidableEq κ] in
theorem firstAt_succ {seen : List κ} {a : α} {rest : List α} {i : Nat} :
    FirstAt key seen (a :: rest) (i + 1) ↔ FirstAt key (key a :: seen) rest i := by
  constructor
  · rintro ⟨b, here, new, first⟩
    refine ⟨b, here, ?_, ?_⟩
    · have other := first 0 a (Nat.zero_lt_succ i) rfl
      rw [List.mem_cons, not_or]
      exact ⟨other.symm, new⟩
    · intro j c before there
      exact first (j + 1) c (Nat.succ_lt_succ before) there
  · rintro ⟨b, here, new, first⟩
    rw [List.mem_cons, not_or] at new
    refine ⟨b, here, new.2, ?_⟩
    intro j c before there
    cases j with
    | zero =>
      cases there
      exact Ne.symm new.1
    | succ j => exact first j c (Nat.lt_of_succ_lt_succ before) there

theorem firstsBeyond_places (seen : List κ) (l : List α) :
    ∃ places : List Nat, places.Pairwise (· < ·) ∧ (∀ i, i ∈ places ↔ FirstAt key seen l i) ∧
      List.Forall₂ (fun i a => l[i]? = some a) places (firstsBeyond key seen l) := by
  induction l generalizing seen with
  | nil =>
    refine ⟨[], List.Pairwise.nil, ?_, .nil⟩
    intro i
    constructor
    · intro mem
      cases mem
    · rintro ⟨a, here, _⟩
      cases here
  | cons a rest ih =>
    obtain ⟨places, ascending, places_iff, elements⟩ := ih (key a :: seen)
    have later : (places.map (· + 1)).Pairwise (· < ·) :=
      ascending.map _ fun _ _ less => Nat.succ_lt_succ less
    have moved : List.Forall₂ (fun i b => (a :: rest)[i]? = some b) (places.map (· + 1))
        (firstsBeyond key (key a :: seen) rest) :=
      List.forall₂_map_left_iff.mpr elements
    have succ_mem : ∀ i, i + 1 ∈ places.map (· + 1) ↔ FirstAt key seen (a :: rest) (i + 1) := by
      intro i
      rw [firstAt_succ, ← places_iff]
      simp
    rw [firstsBeyond]
    split
    · rename_i old
      have same : firstsBeyond key (key a :: seen) rest = firstsBeyond key seen rest := by
        refine firstsBeyond_congr key ?_ rest
        intro k
        constructor
        · intro mem
          rcases List.mem_cons.mp mem with rfl | mem
          · exact old
          · exact mem
        · exact List.mem_cons_of_mem (key a)
      rw [same] at moved
      refine ⟨places.map (· + 1), later, ?_, moved⟩
      intro i
      cases i with
      | zero =>
        rw [firstAt_zero]
        simp [old]
      | succ i => exact succ_mem i
    · rename_i new
      refine ⟨0 :: places.map (· + 1), List.pairwise_cons.mpr ⟨?_, later⟩, ?_, .cons rfl moved⟩
      · intro i mem
        obtain ⟨j, _, rfl⟩ := List.mem_map.mp mem
        exact Nat.zero_lt_succ j
      · intro i
        cases i with
        | zero => simp [firstAt_zero, new]
        | succ i =>
          rw [← succ_mem, List.mem_cons]
          simp

structure IsFirst (l : List α) (k : κ) (place : Nat) (a : α) : Prop where
  here : l[place]? = some a
  keyed : key a = k
  before : ∀ j b, j < place → l[j]? = some b → key b ≠ k

variable {key}

omit [DecidableEq κ] in
theorem IsFirst.unique {l : List α} {k : κ} {i j : Nat} {a b : α} (first : IsFirst key l k i a)
    (other : IsFirst key l k j b) : i = j ∧ a = b := by
  have same : i = j := by
    rcases Nat.lt_trichotomy i j with less | same | more
    · exact absurd first.keyed (other.before i a less first.here)
    · exact same
    · exact absurd other.keyed (first.before j b more other.here)
  subst same
  exact ⟨rfl, Option.some.inj (first.here.symm.trans other.here)⟩

variable (key)

def Earlier (l : List α) (a b : α) : Prop :=
  ∃ i j, IsFirst key l (key a) i a ∧ IsFirst key l (key b) j b ∧ i < j

variable {key}

omit [DecidableEq κ] in
theorem Earlier.asymm {l : List α} {a b : α} (earlier : Earlier key l a b) : ¬ Earlier key l b a := by
  rintro ⟨j', i', first', first, less'⟩
  obtain ⟨i, j, here, there, less⟩ := earlier
  obtain ⟨rfl, _⟩ := here.unique first
  obtain ⟨rfl, _⟩ := there.unique first'
  omega

variable (key)

theorem mem_firstsOn_iff {l : List α} {a : α} :
    a ∈ firstsOn key l ↔ ∃ i, IsFirst key l (key a) i a := by
  rw [mem_firstsOn, List.find?_eq_some_iff_getElem]
  constructor
  · rintro ⟨_, i, inside, here, before⟩
    refine ⟨i, List.getElem?_eq_some_iff.mpr ⟨inside, here⟩, rfl, ?_⟩
    intro j b less there
    obtain ⟨_, rfl⟩ := List.getElem?_eq_some_iff.mp there
    simpa using before j less
  · rintro ⟨i, here, _, before⟩
    obtain ⟨inside, here⟩ := List.getElem?_eq_some_iff.mp here
    refine ⟨decide_eq_true rfl, i, inside, here, ?_⟩
    intro j less
    have other := before j _ less (List.getElem?_eq_getElem (Nat.lt_trans less inside))
    simpa using other

theorem firstsOn_earlier (l : List α) : (firstsOn key l).Pairwise (Earlier key l) := by
  obtain ⟨places, ascending, firsts, elements⟩ := firstsBeyond_places key [] l
  have isFirst {i : Nat} {a : α} (mem : i ∈ places) (there : l[i]? = some a) :
      IsFirst key l (key a) i a := by
    obtain ⟨b, here, _, before⟩ := (firsts i).mp mem
    obtain rfl := Option.some.inj (here.symm.trans there)
    exact ⟨there, rfl, before⟩
  obtain ⟨lengths, related⟩ := List.forall₂_iff_get.mp elements
  refine List.pairwise_iff_getElem.mpr ?_
  intro m n inside inside' less
  have inPlaces : m < places.length := lengths ▸ inside
  have inPlaces' : n < places.length := lengths ▸ inside'
  refine ⟨places[m], places[n], ?_, ?_, ?_⟩
  · exact isFirst (List.getElem_mem inPlaces) (related m inPlaces inside)
  · exact isFirst (List.getElem_mem inPlaces') (related n inPlaces' inside')
  · exact List.pairwise_iff_getElem.mp ascending m n inPlaces inPlaces' less

theorem eq_of_ordered {α : Type} {R : α → α → Prop} {as bs : List α}
    (asymm : ∀ a b, R a b → ¬ R b a) (ordered : as.Pairwise R) (ordered' : bs.Pairwise R)
    (perm : as.Perm bs) : as = bs := by
  refine perm.eq_of_pairwise ?_ ordered ordered'
  intro a b _ _ before after
  exact absurd after (asymm a b before)

theorem eq_of_mem_iff {α : Type} {R : α → α → Prop} {as bs : List α}
    (asymm : ∀ a b, R a b → ¬ R b a) (ordered : as.Pairwise R) (ordered' : bs.Pairwise R)
    (same : ∀ a, a ∈ as ↔ a ∈ bs) : as = bs := by
  have distinct {l : List α} (ordered : l.Pairwise R) : l.Nodup := by
    refine ordered.imp ?_
    rintro a _ before rfl
    exact asymm a a before before
  exact eq_of_ordered asymm ordered ordered'
    ((List.perm_ext_iff_of_nodup (distinct ordered) (distinct ordered')).mpr same)

theorem eq_firstsOn {l firsts : List α} (first : ∀ a, a ∈ firsts ↔ ∃ i, IsFirst key l (key a) i a)
    (order : firsts.Pairwise (Earlier key l)) : firsts = firstsOn key l := by
  refine eq_of_mem_iff (fun _ _ => Earlier.asymm) order (firstsOn_earlier key l) ?_
  intro a
  rw [first, mem_firstsOn_iff]

end Firsts

section Sorted

variable {α : Type} (key : α → Nat)

theorem insertOn_perm (a : α) (l : List α) : (insertOn key a l).Perm (a :: l) := by
  induction l with
  | nil => exact .refl [a]
  | cons b rest ih =>
    rw [insertOn]
    split
    · exact .refl _
    · exact (ih.cons b).trans (.swap a b rest)

theorem sortOn_perm (l : List α) : (sortOn key l).Perm l := by
  induction l with
  | nil => exact .nil
  | cons a rest ih => exact (insertOn_perm key a (sortOn key rest)).trans (ih.cons a)

theorem insertOn_pairwise (a : α) {l : List α} (sorted : l.Pairwise fun b c => key b ≤ key c) :
    (insertOn key a l).Pairwise fun b c => key b ≤ key c := by
  induction l with
  | nil => exact List.pairwise_singleton _ a
  | cons b rest ih =>
    obtain ⟨below, inner⟩ := List.pairwise_cons.mp sorted
    rw [insertOn]
    split
    · rename_i le
      refine List.pairwise_cons.mpr ⟨?_, sorted⟩
      intro c mem
      rcases List.mem_cons.mp mem with rfl | mem
      · exact le
      · exact Nat.le_trans le (below c mem)
    · rename_i less
      refine List.pairwise_cons.mpr ⟨?_, ih inner⟩
      intro c mem
      rcases List.mem_cons.mp ((insertOn_perm key a rest).mem_iff.mp mem) with rfl | mem
      · omega
      · exact below c mem

theorem sortOn_pairwise (l : List α) : (sortOn key l).Pairwise fun b c => key b ≤ key c := by
  induction l with
  | nil => exact .nil
  | cons a rest ih => exact insertOn_pairwise key a ih

/-- By key, and in a given order where the keys are equal. -/
def Ranked (R : α → α → Prop) (a b : α) : Prop := key a < key b ∨ (key a = key b ∧ R a b)

theorem insertOn_ranked {R : α → α → Prop} {a : α} {l : List α} (ranked : l.Pairwise (Ranked key R))
    (ahead : ∀ b ∈ l, R a b) : (insertOn key a l).Pairwise (Ranked key R) := by
  induction l with
  | nil => exact List.pairwise_singleton _ a
  | cons b rest ih =>
    obtain ⟨below, inner⟩ := List.pairwise_cons.mp ranked
    rw [insertOn]
    split
    · rename_i le
      refine List.pairwise_cons.mpr ⟨?_, ranked⟩
      intro c mem
      have le' : key a ≤ key c := by
        rcases List.mem_cons.mp mem with rfl | mem
        · exact le
        · rcases below c mem with less | ⟨same, _⟩
          · omega
          · omega
      rcases Nat.lt_or_eq_of_le le' with less | same
      · exact .inl less
      · exact .inr ⟨same, ahead c mem⟩
    · rename_i less
      refine List.pairwise_cons.mpr ⟨?_, ih inner fun c mem => ahead c (List.mem_cons_of_mem b mem)⟩
      intro c mem
      rcases List.mem_cons.mp ((insertOn_perm key a rest).mem_iff.mp mem) with rfl | mem
      · exact .inl (by omega)
      · exact below c mem

theorem sortOn_ranked {R : α → α → Prop} {l : List α} (ordered : l.Pairwise R) :
    (sortOn key l).Pairwise (Ranked key R) := by
  induction l with
  | nil => exact .nil
  | cons a rest ih =>
    obtain ⟨ahead, inner⟩ := List.pairwise_cons.mp ordered
    refine insertOn_ranked key (ih inner) ?_
    intro b mem
    exact ahead b ((sortOn_perm key rest).mem_iff.mp mem)

section Search

variable {p : α → Bool} {a : α} {l : List α}

theorem find?_insertOn_other (other : p a = false) : (insertOn key a l).find? p = l.find? p := by
  induction l with
  | nil => simp [insertOn, other]
  | cons b rest ih =>
    rw [insertOn]
    split
    · rw [List.find?_cons_of_neg (by simp [other])]
    · rw [List.find?_cons, List.find?_cons, ih]

theorem find?_insertOn_below (holds : p a = true)
    (below : ∀ b, l.find? p = some b → key a ≤ key b) : (insertOn key a l).find? p = some a := by
  induction l with
  | nil => simp [insertOn, holds]
  | cons b rest ih =>
    rw [insertOn]
    split
    · exact List.find?_cons_of_pos holds
    · rename_i less
      cases here : p b with
      | true => exact absurd (below b (List.find?_cons_of_pos here)) less
      | false =>
        have skip : ¬ p b = true := Bool.eq_false_iff.mp here
        rw [List.find?_cons_of_neg skip]
        refine ih ?_
        intro c found
        refine below c ?_
        rw [List.find?_cons_of_neg skip, found]

theorem find?_insertOn_above {b : α} (sorted : l.Pairwise fun b c => key b ≤ key c)
    (found : l.find? p = some b) (above : key b < key a) : (insertOn key a l).find? p = some b := by
  induction l with
  | nil => cases found
  | cons c rest ih =>
    obtain ⟨below, inner⟩ := List.pairwise_cons.mp sorted
    cases here : p c with
    | true =>
      rw [List.find?_cons_of_pos here, Option.some.injEq] at found
      subst found
      rw [insertOn, if_neg (by omega), List.find?_cons_of_pos here]
    | false =>
      have skip : ¬ p c = true := Bool.eq_false_iff.mp here
      rw [List.find?_cons_of_neg skip] at found
      have le := below b (List.mem_of_find?_eq_some found)
      rw [insertOn, if_neg (by omega), List.find?_cons_of_neg skip, ih inner found]

end Search

/-- The lowest key among the elements that satisfy `p`, at its first place. -/
structure Lowest (p : α → Bool) (l : List α) (i : Nat) (a : α) : Prop where
  here : l[i]? = some a
  holds : p a = true
  least : ∀ j b, l[j]? = some b → p b = true → key a < key b ∨ (key a = key b ∧ i ≤ j)

variable {p : α → Bool} {a : α} {l : List α}

theorem Lowest.behind {c : α} {i : Nat} (lowest : Lowest key p l i a)
    (first : p c = true → key a < key c) : Lowest key p (c :: l) (i + 1) a where
  here := lowest.here
  holds := lowest.holds
  least := by
    intro j b there holds
    cases j with
    | zero =>
      cases there
      exact .inl (first holds)
    | succ j =>
      rcases lowest.least j b there holds with less | ⟨same, le⟩
      · exact .inl less
      · exact .inr ⟨same, Nat.succ_le_succ le⟩

theorem exists_lowest (found : (sortOn key l).find? p = some a) : ∃ i, Lowest key p l i a := by
  induction l generalizing a with
  | nil => cases found
  | cons c rest ih =>
    change (insertOn key c (sortOn key rest)).find? p = some a at found
    have sorted := sortOn_pairwise key rest
    cases holds : p c with
    | false =>
      rw [find?_insertOn_other key holds] at found
      obtain ⟨i, lowest⟩ := ih found
      refine ⟨i + 1, lowest.behind key ?_⟩
      intro holds'
      rw [holds] at holds'
      cases holds'
    | true =>
      by_cases below : ∀ b, (sortOn key rest).find? p = some b → key c ≤ key b
      · rw [find?_insertOn_below key holds below, Option.some.injEq] at found
        subst found
        refine ⟨0, rfl, holds, ?_⟩
        intro j b there holds'
        cases j with
        | zero =>
          cases there
          exact .inr ⟨rfl, Nat.le_refl 0⟩
        | succ j =>
          have le : key c ≤ key b := by
            -- the search in the rest finds something, which is not above `b`
            have mem : b ∈ sortOn key rest :=
              (sortOn_perm key rest).mem_iff.mpr (List.mem_of_getElem? there)
            cases other : (sortOn key rest).find? p with
            | none => exact absurd holds' (List.find?_eq_none.mp other b mem)
            | some d =>
              obtain ⟨i, lowest⟩ := ih other
              have first := below d other
              rcases lowest.least j b there holds' with less | ⟨same, _⟩
              · omega
              · omega
          rcases Nat.lt_or_eq_of_le le with less | same
          · exact .inl less
          · exact .inr ⟨same, Nat.zero_le _⟩
      · obtain ⟨b, other, above⟩ : ∃ b, (sortOn key rest).find? p = some b ∧ key b < key c := by
          simpa using below
        rw [find?_insertOn_above key sorted other above, Option.some.injEq] at found
        subst found
        obtain ⟨i, lowest⟩ := ih other
        exact ⟨i + 1, lowest.behind key fun _ => above⟩

/-- The sort is stable: a search in the sorted list finds the first of the lowest. -/
theorem find?_sortOn_iff : (sortOn key l).find? p = some a ↔ ∃ i, Lowest key p l i a := by
  constructor
  · exact exists_lowest key
  · rintro ⟨i, lowest⟩
    have mem : a ∈ sortOn key l :=
      (sortOn_perm key l).mem_iff.mpr (List.mem_of_getElem? lowest.here)
    cases found : (sortOn key l).find? p with
    | none => exact absurd lowest.holds (List.find?_eq_none.mp found a mem)
    | some b =>
      obtain ⟨j, other⟩ := exists_lowest key found
      have forth := lowest.least j b other.here other.holds
      have back := other.least i a lowest.here lowest.holds
      obtain rfl : i = j := by omega
      exact other.here.symm.trans lowest.here

end Sorted

end SceneGpu
