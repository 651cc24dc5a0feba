import Mathlib.Algebra.GroupWithZero.Nat
import Mathlib.Data.List.Basic
import Mathlib.Data.List.Induction
import Mathlib.Data.Set.Basic
import Mathlib.Order.Bounds.Defs
import SceneGpu.Device.Queue
/-!
Which queues are asked of which family. A role takes the last family that serves it, a family is asked
for as many queues as roles take it, and the slots of the roles are exactly the queues asked for.
-/
namespace SceneGpu

def Serving (role : QueueRole) (families : QueueFamilies) : Set Nat :=
  {i | ∃ family, families[i]? = some family ∧ serves role family = true}

section Serving

variable {role : QueueRole} {family : UInt32} {rest : QueueFamilies}

theorem zero_mem_serving : 0 ∈ Serving role (family :: rest) ↔ serves role family = true := by
  simp [Serving]

theorem succ_mem_serving {i : Nat} :
    i + 1 ∈ Serving role (family :: rest) ↔ i ∈ Serving role rest := by
  simp [Serving]

theorem lt_length_of_serving {families : QueueFamilies} {i : Nat} (mem : i ∈ Serving role families) :
    i < families.length := by
  obtain ⟨family, here, _⟩ := mem
  exact (List.getElem?_eq_some_iff.mp here).1

end Serving

namespace RoleFamilies

theorem lastServing_unserved {role : QueueRole} {families : QueueFamilies}
    (unserved : Serving role families = ∅) (found start : Nat) :
    lastServing role found start families = found := by
  induction families generalizing found start with
  | nil => rfl
  | cons family rest ih =>
    have head : ¬ serves role family = true := by
      intro serving
      have mem : 0 ∈ Serving role (family :: rest) := zero_mem_serving.mpr serving
      rw [unserved] at mem
      exact mem
    have tail : Serving role rest = ∅ := by
      rw [Set.eq_empty_iff_forall_notMem] at unserved ⊢
      intro i mem
      exact unserved (i + 1) (succ_mem_serving.mpr mem)
    rw [lastServing, if_neg head]
    exact ih tail found (start + 1)

theorem lastServing_served {role : QueueRole} {families : QueueFamilies}
    (served : (Serving role families).Nonempty) (found start : Nat) :
    ∃ i, IsGreatest (Serving role families) i ∧
      lastServing role found start families = start + i := by
  induction families generalizing found start with
  | nil =>
    obtain ⟨i, mem⟩ := served
    have := lt_length_of_serving mem
    simp at this
  | cons family rest ih =>
    rw [lastServing]
    by_cases later : (Serving role rest).Nonempty
    · obtain ⟨i, ⟨mem, above⟩, last⟩ := ih later (if serves role family then start else found) (start + 1)
      refine ⟨i + 1, ⟨succ_mem_serving.mpr mem, ?_⟩, by omega⟩
      intro j other
      cases j with
      | zero => omega
      | succ j =>
        have := above (succ_mem_serving.mp other)
        omega
    · -- nothing behind serves the role, so the first family does
      have none_later : Serving role rest = ∅ := Set.not_nonempty_iff_eq_empty.mp later
      have only : ∀ j ∈ Serving role (family :: rest), j = 0 := by
        intro j mem
        cases j with
        | zero => rfl
        | succ j => exact absurd ⟨j, succ_mem_serving.mp mem⟩ later
      obtain ⟨j, mem⟩ := served
      obtain rfl := only j mem
      refine ⟨0, ⟨mem, fun j other => (only j other).le⟩, ?_⟩
      rw [lastServing_unserved none_later, if_pos (zero_mem_serving.mp mem)]
      rfl

theorem resolve_of (families : QueueFamilies) (role : QueueRole) :
    (resolve families).of role = lastServing role 0 0 families := by
  cases role <;> rfl

theorem resolve_served {families : QueueFamilies} {role : QueueRole}
    (served : (Serving role families).Nonempty) :
    IsGreatest (Serving role families) ((resolve families).of role) := by
  obtain ⟨i, greatest, last⟩ := lastServing_served served 0 0
  rw [resolve_of, last, Nat.zero_add]
  exact greatest

theorem resolve_unserved {families : QueueFamilies} {role : QueueRole}
    (unserved : Serving role families = ∅) : (resolve families).of role = 0 := by
  rw [resolve_of, lastServing_unserved unserved]

theorem resolve_lt {families : QueueFamilies} (filled : families ≠ []) (role : QueueRole) :
    (resolve families).of role < families.length := by
  rcases Set.eq_empty_or_nonempty (Serving role families) with unserved | served
  · rw [resolve_unserved unserved]
    exact List.length_pos_of_ne_nil filled
  · exact lt_length_of_serving (resolve_served served).1

end RoleFamilies

/-- One group for each family taken, in the order in which they are first taken, with a queue for
each time that it is taken. -/
structure Grouping (taken : List Nat) (groups : List QueueGroup) : Prop where
  families : ∀ family, family ∈ groups.map (·.family) ↔ family ∈ taken
  order : (groups.map (·.family)).Pairwise fun a b => taken.idxOf a < taken.idxOf b
  count : ∀ g ∈ groups, g.count = taken.count g.family
  total : (groups.map (·.count)).sum = taken.length

namespace QueueGroup

theorem add_families (family : Nat) (groups : List QueueGroup) :
    (add family groups).map (·.family) =
      if family ∈ groups.map (·.family) then groups.map (·.family)
      else groups.map (·.family) ++ [family] := by
  induction groups with
  | nil => rfl
  | cons g rest ih =>
    by_cases here : g.family = family
    · simp [add, here]
    · have other : ¬ family = g.family := fun eq => here eq.symm
      simp only [add, here, if_false, List.map_cons, ih, List.mem_cons, other, false_or]
      split <;> rfl

theorem add_total (family : Nat) (groups : List QueueGroup) :
    ((add family groups).map (·.count)).sum = (groups.map (·.count)).sum + 1 := by
  induction groups with
  | nil => rfl
  | cons g rest ih =>
    by_cases here : g.family = family
    · simp [add, here]
      omega
    · simp only [add, here, if_false, List.map_cons, List.sum_cons, ih]
      omega

theorem mem_add {family : Nat} {groups : List QueueGroup}
    (distinct : (groups.map (·.family)).Nodup) {g : QueueGroup} (mem : g ∈ add family groups) :
    (g ∈ groups ∧ g.family ≠ family) ∨ (family ∉ groups.map (·.family) ∧ g = ⟨family, 1⟩) ∨
      ∃ old ∈ groups, old.family = family ∧ g = ⟨family, old.count + 1⟩ := by
  induction groups with
  | nil => exact .inr (.inl ⟨List.not_mem_nil, List.mem_singleton.mp mem⟩)
  | cons first rest ih =>
    rw [List.map_cons, List.nodup_cons] at distinct
    by_cases here : first.family = family
    · simp only [add, here, if_true, List.mem_cons] at mem
      rcases mem with rfl | mem
      · exact .inr (.inr ⟨first, List.mem_cons_self, here, rfl⟩)
      · refine .inl ⟨List.mem_cons_of_mem _ mem, ?_⟩
        intro same
        apply distinct.1
        rw [here, ← same]
        exact List.mem_map_of_mem mem
    · simp only [add, here, if_false, List.mem_cons] at mem
      rcases mem with rfl | mem
      · exact .inl ⟨List.mem_cons_self, here⟩
      · rcases ih distinct.2 mem with ⟨kept, other⟩ | ⟨new, eq⟩ | ⟨old, there, same, eq⟩
        · exact .inl ⟨List.mem_cons_of_mem _ kept, other⟩
        · refine .inr (.inl ⟨?_, eq⟩)
          simp only [List.map_cons, List.mem_cons, not_or]
          exact ⟨Ne.symm here, new⟩
        · exact .inr (.inr ⟨old, List.mem_cons_of_mem _ there, same, eq⟩)

end QueueGroup

namespace Grouping

variable {taken : List Nat} {groups : List QueueGroup}

theorem nodup (grouping : Grouping taken groups) : (groups.map (·.family)).Nodup :=
  grouping.order.imp fun less same => by
    rw [same] at less
    exact Nat.lt_irrefl _ less

theorem nil : Grouping [] [] where
  families := fun _ => Iff.rfl
  order := .nil
  count := fun _ mem => by cases mem
  total := rfl

theorem add (grouping : Grouping taken groups) (family : Nat) :
    Grouping (taken ++ [family]) (QueueGroup.add family groups) := by
  have known : family ∈ groups.map (·.family) ↔ family ∈ taken := grouping.families family
  have earlier : (groups.map (·.family)).Pairwise fun a b =>
      (taken ++ [family]).idxOf a < (taken ++ [family]).idxOf b := by
    refine grouping.order.imp_of_mem ?_
    intro a b memA memB less
    rw [List.idxOf_append_of_mem ((grouping.families a).mp memA),
      List.idxOf_append_of_mem ((grouping.families b).mp memB)]
    exact less
  refine ⟨?_, ?_, ?_, ?_⟩
  · intro other
    rw [QueueGroup.add_families, List.mem_append, List.mem_singleton]
    split
    · rename_i old
      rw [grouping.families]
      constructor
      · exact Or.inl
      · rintro (mem | rfl)
        · exact mem
        · exact known.mp old
    · rw [List.mem_append, List.mem_singleton, grouping.families]
  · rw [QueueGroup.add_families]
    split
    · exact earlier
    · rename_i new
      refine List.pairwise_append.mpr ⟨earlier, List.pairwise_singleton _ _, ?_⟩
      intro a memA b memB
      obtain rfl := List.mem_singleton.mp memB
      have memA : a ∈ taken := (grouping.families a).mp memA
      have before := List.idxOf_lt_length_of_mem memA
      rw [List.idxOf_append_of_mem memA, List.idxOf_append_of_notMem (fun mem => new (known.mpr mem))]
      omega
  · intro g mem
    rw [List.count_append]
    rcases QueueGroup.mem_add grouping.nodup mem with ⟨kept, other⟩ | ⟨new, rfl⟩ | ⟨old, there, rfl, rfl⟩
    · have absent : [family].count g.family = 0 := List.count_eq_zero.mpr (by simpa using other)
      rw [absent, Nat.add_zero, grouping.count g kept]
    · have absent : taken.count family = 0 := List.count_eq_zero.mpr fun mem => new (known.mpr mem)
      simp [absent]
    · have count := grouping.count old there
      simp [count]
  · rw [QueueGroup.add_total, grouping.total, List.length_append]
    rfl

end Grouping

theorem grouping_foldl (taken : List Nat) :
    Grouping taken (taken.foldl (fun groups family => QueueGroup.add family groups) []) := by
  induction taken using List.reverseRecOn with
  | nil => exact Grouping.nil
  | append_singleton front family ih =>
    rw [List.foldl_append]
    exact ih.add family

section slots

theorem slotsFrom_families (before families : List Nat) :
    (slotsFrom before families).map (·.1) = families := by
  induction families generalizing before with
  | nil => rfl
  | cons family rest ih => rw [slotsFrom, List.map_cons, ih]

theorem mem_slotsFrom {before families : List Nat} {family index : Nat} :
    (family, index) ∈ slotsFrom before families ↔
      before.count family ≤ index ∧ index < (before ++ families).count family := by
  induction families generalizing before with
  | nil =>
    simp only [slotsFrom, List.not_mem_nil, List.append_nil, false_iff]
    omega
  | cons first rest ih =>
    have whole : (before ++ first :: rest).count family = ((before ++ [first]) ++ rest).count family := by
      simp
    rw [slotsFrom, List.mem_cons, ih, whole, Prod.mk.injEq]
    have more : (before ++ [first]).count family ≤ ((before ++ [first]) ++ rest).count family :=
      (List.sublist_append_left _ _).count_le family
    by_cases here : family = first
    · subst here
      have next : (before ++ [family]).count family = before.count family + 1 := by simp
      omega
    · have same : (before ++ [first]).count family = before.count family := by
        simp [List.count_append, Ne.symm here]
      omega

theorem nodup_slotsFrom (before families : List Nat) : (slotsFrom before families).Nodup := by
  induction families generalizing before with
  | nil => exact .nil
  | cons family rest ih =>
    refine List.nodup_cons.mpr ⟨?_, ih (before ++ [family])⟩
    intro again
    have later := (mem_slotsFrom.mp again).1
    have next : (before ++ [family]).count family = before.count family + 1 := by simp
    omega

theorem Grouping.mem_slots {taken : List Nat} {groups : List QueueGroup}
    (grouping : Grouping taken groups) {family index : Nat} :
    (family, index) ∈ slotsFrom [] taken ↔ ∃ g ∈ groups, g.family = family ∧ index < g.count := by
  rw [mem_slotsFrom]
  simp only [List.count_nil, Nat.zero_le, true_and, List.nil_append]
  constructor
  · intro below
    have member : family ∈ taken := List.count_pos_iff.mp (by omega)
    obtain ⟨g, mem, rfl⟩ := List.mem_map.mp ((grouping.families family).mpr member)
    exact ⟨g, mem, rfl, by rwa [grouping.count g mem]⟩
  · rintro ⟨g, mem, rfl, below⟩
    rwa [← grouping.count g mem]

end slots

namespace RoleFamilies

theorem groups_grouping (f : RoleFamilies) : Grouping f.list f.groups := grouping_foldl f.list

theorem exists_role {f : RoleFamilies} {family : Nat} (mem : family ∈ f.list) :
    ∃ role, f.of role = family := by
  obtain ⟨role, _, same⟩ := List.mem_map.mp mem
  exact ⟨role, same⟩

end RoleFamilies

/-- What a driver reports of a family: what it can do, and how many queues it has. -/
structure FamilyReport where
  capabilities : UInt32
  queues : Nat
deriving DecidableEq, Repr

namespace FamilyReport

def plan (reported : List FamilyReport) : RoleFamilies :=
  .resolve (reported.map (·.capabilities))

def HaveGroups (reported : List FamilyReport) : Prop :=
  ∀ g ∈ (plan reported).groups, ∃ r, reported[g.family]? = some r ∧ g.count ≤ r.queues

def HaveSlots (reported : List FamilyReport) : Prop :=
  ∀ slot ∈ (plan reported).slots, ∃ r, reported[slot.1]? = some r ∧ slot.2 < r.queues

/-- No family has fewer queues than roles take it. -/
def Suffice (reported : List FamilyReport) : Prop :=
  ∀ (i : Nat) (r : FamilyReport), reported[i]? = some r → (plan reported).list.count i ≤ r.queues

section

variable {reported : List FamilyReport}

theorem exists_report (filled : reported ≠ []) {family : Nat}
    (mem : family ∈ (plan reported).list) : ∃ r, reported[family]? = some r := by
  obtain ⟨role, rfl⟩ := RoleFamilies.exists_role mem
  have flags : reported.map (·.capabilities) ≠ [] := by simpa using filled
  have below := RoleFamilies.resolve_lt flags role
  rw [List.length_map] at below
  exact ⟨_, List.getElem?_eq_getElem below⟩

theorem haveGroups_iff (filled : reported ≠ []) : HaveGroups reported ↔ Suffice reported := by
  have grouping := (plan reported).groups_grouping
  constructor
  · intro have_ i r here
    by_cases taken : i ∈ (plan reported).list
    · obtain ⟨g, mem, rfl⟩ := List.mem_map.mp ((grouping.families i).mpr taken)
      obtain ⟨r', there, enough⟩ := have_ g mem
      rw [here] at there
      cases there
      rwa [grouping.count g mem] at enough
    · rw [List.count_eq_zero.mpr taken]
      exact Nat.zero_le _
  · intro suffice_ g mem
    have taken : g.family ∈ (plan reported).list :=
      (grouping.families _).mp (List.mem_map_of_mem mem)
    obtain ⟨r, here⟩ := exists_report filled taken
    exact ⟨r, here, grouping.count g mem ▸ suffice_ _ r here⟩

theorem haveSlots_iff (filled : reported ≠ []) : HaveSlots reported ↔ Suffice reported := by
  have slots : ∀ family index, (family, index) ∈ (plan reported).slots ↔
      index < (plan reported).list.count family := by
    intro family index
    rw [RoleFamilies.slots, mem_slotsFrom]
    simp
  constructor
  · intro have_ i r here
    by_contra less
    -- the slot behind the last queue of the family
    obtain ⟨r', there, below⟩ := have_ (i, r.queues) ((slots i r.queues).mpr (by omega))
    rw [here] at there
    cases there
    exact Nat.lt_irrefl _ below
  · rintro suffice_ ⟨family, index⟩ mem
    have below := (slots family index).mp mem
    have taken : family ∈ (plan reported).list := List.count_pos_iff.mp (by omega)
    obtain ⟨r, here⟩ := exists_report filled taken
    have enough := suffice_ family r here
    exact ⟨r, here, by omega⟩

theorem suffice_of_three (three : ∀ r ∈ reported, 3 ≤ r.queues) : Suffice reported := by
  intro i r here
  have few : (plan reported).list.count i ≤ (plan reported).list.length := List.count_le_length
  have length : (plan reported).list.length = 3 := rfl
  have enough := three r (List.mem_of_getElem? here)
  omega

/-- All queues asked for exist exactly where no family has fewer of them than roles take it, and
that is so wherever each family has three. -/
theorem queues_exist_iff (filled : reported ≠ []) :
    (HaveGroups reported ↔ Suffice reported) ∧ (HaveSlots reported ↔ Suffice reported) ∧
      ((∀ r ∈ reported, 3 ≤ r.queues) → Suffice reported) :=
  ⟨haveGroups_iff filled, haveSlots_iff filled, suffice_of_three⟩

end

-- graphics on a family with one queue, transfer and compute on a family with two
def split : List FamilyReport := [⟨9, 1⟩, ⟨6, 2⟩]

theorem queues_exist_split : split ≠ [] ∧ Suffice split ∧ HaveGroups split ∧ HaveSlots split := by
  have filled : split ≠ [] := by decide
  have enough : Suffice split := by
    intro i r here
    match i with
    | 0 => cases here; decide
    | 1 => cases here; decide
    | _ + 2 => simp [split] at here
  obtain ⟨groups, slots, _⟩ := queues_exist_iff filled
  exact ⟨filled, enough, groups.mpr enough, slots.mpr enough⟩

-- one family that can do everything with its only queue: all three roles take it
def single : List FamilyReport := [⟨7, 1⟩]

theorem single_queue_overasked : single ≠ [] ∧ (∀ r ∈ single, 1 ≤ r.queues) ∧
    ¬ HaveGroups single ∧ ¬ HaveSlots single := by
  refine ⟨by decide, by decide, ?_, ?_⟩
  · intro have_
    obtain ⟨r, here, enough⟩ := have_ ⟨0, 3⟩ (by decide)
    cases here
    exact absurd enough (by decide)
  · intro have_
    obtain ⟨r, here, below⟩ := have_ (0, 2) (by decide)
    cases here
    exact absurd below (by decide)

end FamilyReport
end SceneGpu
