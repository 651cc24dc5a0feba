import Mathlib.Data.List.Nodup
import Mathlib.Data.List.Pairwise
/-!
Where a list with one more element can be split, how two elements of an ordered list are related, and what
distinct keys say of a search, of a filter and of an entry that is emptied.
-/
namespace SceneGpu

theorem concat_eq_split {α : Type} {l before after : List α} {last a : α}
    (eq : l ++ [last] = before ++ a :: after) :
    (before = l ∧ a = last ∧ after = []) ∨ ∃ front, l = before ++ a :: front ∧ after = front ++ [last] := by
  rcases List.eq_nil_or_concat after with rfl | ⟨front, other, rfl⟩
  · obtain ⟨rfl, same⟩ := List.append_inj' eq rfl
    exact .inl ⟨rfl, (List.singleton_inj.mp same).symm, rfl⟩
  · have shifted : l ++ [last] = (before ++ a :: front) ++ [other] := by simpa using eq
    obtain ⟨rfl, same⟩ := List.append_inj' shifted rfl
    obtain rfl := List.singleton_inj.mp same
    exact .inr ⟨front, rfl, List.concat_eq_append⟩

theorem set_split {α : Type} {l : List α} {i : Nat} {x : α} (there : l[i]? = some x) (y : α) :
    ∃ front back, l = front ++ x :: back ∧ l.set i y = front ++ y :: back := by
  obtain ⟨inside, rfl⟩ := List.getElem?_eq_some_iff.mp there
  obtain ⟨front, back, all, -, set⟩ : ∃ front back, l = front ++ l[i] :: back ∧ front.length = i ∧
      l.set i y = front ++ y :: back := List.exists_of_set inside
  exact ⟨front, back, all, set⟩

theorem eq_or_related {α : Type} {R : α → α → Prop} {l : List α} (ordered : l.Pairwise R) {a b : α}
    (mem : a ∈ l) (mem' : b ∈ l) : a = b ∨ R a b ∨ R b a := by
  have symm : Std.Symm fun a b => R a b ∨ R b a := ⟨fun _ _ => Or.symm⟩
  have either : l.Pairwise fun a b => R a b ∨ R b a := ordered.imp .inl
  by_cases same : a = b
  · exact .inl same
  · exact .inr (either.forall mem mem' same)

section keys

variable {α β κ : Type} [DecidableEq κ]

theorem find?_of_nodup {key : α → κ} {l : List α} {x : α} (distinct : (l.map key).Nodup)
    (mem : x ∈ l) : l.find? (fun y => key y = key x) = some x := by
  have there : (l.find? fun y => key y = key x).isSome := List.find?_isSome.mpr ⟨x, mem, by simp⟩
  obtain ⟨y, found⟩ := Option.isSome_iff_exists.mp there
  have same : key y = key x := by simpa using List.find?_some found
  rw [found, List.inj_on_of_nodup_map distinct (List.mem_of_find?_eq_some found) mem same]

theorem filter_ne_of_nodup {key : α → κ} {front back : List α} {x : α}
    (distinct : ((front ++ x :: back).map key).Nodup) :
    (front ++ x :: back).filter (fun y => key y ≠ key x) = front ++ back := by
  rw [List.map_append, List.map_cons, List.nodup_middle, List.nodup_cons, ← List.map_append] at distinct
  have others : (front ++ back).filter (fun y => key y ≠ key x) = front ++ back := by
    refine List.filter_eq_self.mpr fun y mem => decide_eq_true ?_
    intro same
    exact distinct.1 (same ▸ List.mem_map_of_mem mem)
  rw [List.filter_append] at others ⊢
  simpa using others

theorem filterMap_set (f : α → Option β) (key : β → κ) {l : List α} {i : Nat} {x : α} {z : β} (y : α)
    (there : l[i]? = some x) (stood : f x = some z) (gone : f y = none)
    (distinct : ((l.filterMap f).map key).Nodup) :
    (l.set i y).filterMap f = (l.filterMap f).filter fun w => key w ≠ key z := by
  obtain ⟨front, back, all, set⟩ := set_split there y
  have parts : l.filterMap f = front.filterMap f ++ z :: back.filterMap f := by
    rw [all, List.filterMap_append, List.filterMap_cons_some stood]
  rw [parts] at distinct
  rw [set, parts, filter_ne_of_nodup distinct, List.filterMap_append, List.filterMap_cons_none gone]

end keys

end SceneGpu
