import SceneGpu.Proofs.Files.Agreement
/-!
Files that are written over, each time with a later stamp, while no path comes or goes. The stamp of
a file then tells what it held, also at all times between two at which it was the same.
-/
namespace SceneGpu.Files

/-- What a node may be later: a file that was written over has a later stamp. -/
inductive Node.Succeeds : Node → Node → Prop
  | kept (n : Node) : Succeeds n n
  | entered (before after : Stamp) : Succeeds (.directory before) (.directory after)
  | written (old new : List UInt8) {before after : Stamp} (executable executable' : Bool)
      (later : before < after) : Succeeds (.file old before executable) (.file new after executable')

namespace Node.Succeeds

variable {n m k : Node}

theorem trans (first : Succeeds n m) (second : Succeeds m k) : Succeeds n k := by
  cases first with
  | kept => exact second
  | entered before after =>
    cases second with
    | kept => exact .entered before after
    | entered _ last => exact .entered before last
  | written old new executable executable' later =>
    cases second with
    | kept => exact .written old new executable executable' later
    | written _ newest _ executable'' latest =>
      exact .written old newest executable executable'' (Int.lt_trans later latest)

theorem stamp_le {content : List UInt8} {stamp : Stamp} {executable : Bool}
    (later : Succeeds (.file content stamp executable) m) : stamp ≤ m.stamp := by
  cases later with
  | kept => exact Int.le_refl _
  | written _ _ _ _ later => exact Int.le_of_lt later

end Node.Succeeds

namespace Tree

structure Overwritten (t u : Tree) : Prop where
  here : u.here = t.here
  node : ∀ place, Option.Rel Node.Succeeds (t.node place) (u.node place)

namespace Overwritten

variable {t u v : Tree}

theorem refl (t : Tree) : t.Overwritten t := by
  refine ⟨rfl, ?_⟩
  intro place
  cases t.node place with
  | none => exact .none
  | some n => exact .some (.kept n)

theorem trans (first : t.Overwritten u) (second : u.Overwritten v) : t.Overwritten v := by
  refine ⟨second.here.trans first.here, ?_⟩
  intro place
  have before := first.node place
  have after := second.node place
  generalize t.node place = n, u.node place = m, v.node place = k at before after
  cases before with
  | none =>
    cases after
    exact .none
  | some before =>
    cases after with
    | some after => exact .some (before.trans after)

theorem follow_eq (anew : t.Overwritten u) (place : Place) (segments : List (List UInt8)) :
    u.follow place segments = t.follow place segments := by
  induction segments generalizing place with
  | nil => rfl
  | cons segment rest ih =>
    have later := anew.node place
    simp only [follow]
    generalize t.node place = n, u.node place = m at later
    cases later with
    | none => rfl
    | some later =>
      cases later with
      | kept =>
        rename_i n
        cases n with
        | directory => simp [ih]
        | file => rfl
      | entered => simp [ih]
      | written => rfl

theorem reach_eq (anew : t.Overwritten u) (p : Path) : u.reach p = t.reach p := by
  simp only [reach, anew.here, anew.follow_eq]

theorem find_cases (anew : t.Overwritten u) (p : Path) :
    (∃ r, t.find p = .error r ∧ u.find p = .error r) ∨
      ∃ place n m, t.find p = .ok (place, n) ∧ u.find p = .ok (place, m) ∧ n.Succeeds m := by
  simp only [find, anew.reach_eq]
  cases t.reach p with
  | error r => exact .inl ⟨r, rfl, rfl⟩
  | ok place =>
    have later := anew.node place
    simp only
    generalize t.node place = n, u.node place = m at later
    cases later with
    | none => exact .inl ⟨.notFound, rfl, rfl⟩
    | some later => exact .inr ⟨place, _, _, rfl, rfl, later⟩

theorem find_ok (anew : t.Overwritten u) {p : Path} {r : Place × Node} (found : t.find p = .ok r) :
    ∃ r', u.find p = .ok r' := by
  rcases anew.find_cases p with ⟨_, before, _⟩ | ⟨place, n, m, _, after, _⟩
  · rw [found] at before
    cases before
  · exact ⟨(place, m), after⟩

theorem readable_iff (anew : t.Overwritten u) (p : Path) :
    (∃ content, t.read p = .ok content) ↔ ∃ content, u.read p = .ok content := by
  simp only [Tree.read]
  rcases anew.find_cases p with ⟨r, before, after⟩ | ⟨place, n, m, before, after, later⟩
  · rw [before, after]
  · rw [before, after]
    cases later with
    | kept => rfl
    | entered => simp
    | written => simp

theorem tellsApart (anew : t.Overwritten u) : t.TellsApart u := by
  intro p stamp old new
  simp only [modified?, Tree.read] at old new ⊢
  rcases anew.find_cases p with ⟨r, before, after⟩ | ⟨place, n, m, before, after, later⟩
  · rw [before, after]
  · rw [before] at old ⊢
    rw [after] at new ⊢
    cases later with
    | kept => rfl
    | entered => rfl
    | written _ _ _ _ later =>
      have same := Option.some.inj (old.trans new.symm)
      simp only [Node.stamp] at same
      exact absurd later (same ▸ Int.lt_irrefl _)

theorem modified?_le (anew : t.Overwritten u) {p : Path}
    (read : ∃ content, t.read p = .ok content) :
    ∃ before after, t.modified? p = some before ∧ u.modified? p = some after ∧ before ≤ after := by
  obtain ⟨content, read⟩ := read
  obtain ⟨place, stamp, executable, found⟩ := read_ok read
  rcases anew.find_cases p with ⟨r, before, _⟩ | ⟨_, n, m, before, after, later⟩
  · rw [found] at before
    cases before
  · rw [found] at before
    cases before
    refine ⟨stamp, m.stamp, ?_, ?_, later.stamp_le⟩
    · simp only [modified?, found, Node.stamp]
    · simp only [modified?, after]

theorem put {place : Place} {content content' : List UInt8} {stamp stamp' : Stamp}
    {executable executable' : Bool} (old : t.node place = some (.file content stamp executable))
    (later : stamp < stamp') :
    t.Overwritten (t.put place (some (.file content' stamp' executable'))) := by
  refine ⟨rfl, ?_⟩
  intro other
  by_cases here : other = place
  · subst here
    simp only [Tree.put, old, ↓reduceIte]
    exact .some (.written _ _ _ _ later)
  · simp only [Tree.put, here, ↓reduceIte]
    exact (refl t).node other

end Overwritten
end Tree

/-- A change that only ever writes files over, whatever the tree. -/
structure Rewrite where
  apply : Tree → Tree
  overwrites : ∀ t : Tree, t.Overwritten (apply t)

theorem Tree.Overwritten.exists_rewrite {t u : Tree} (anew : t.Overwritten u) :
    ∃ change : Rewrite, change.apply t = u := by
  classical
  refine ⟨⟨fun x => if x = t then u else x, ?_⟩, if_pos rfl⟩
  intro x
  split
  · rename_i same
    exact same ▸ anew
  · exact .refl x

/-- Puts new content in a file. The stamp grows by one more than `gain`; a place that holds no file
is left alone. -/
def Rewrite.file (place : Place) (content : List UInt8) (gain : Nat) : Rewrite where
  apply := fun t =>
    match t.node place with
    | some (.file _ stamp executable) =>
      t.put place (some (.file content (stamp + gain + 1) executable))
    | _ => t
  overwrites := by
    intro t
    split
    · rename_i old stamp executable found
      have later : stamp ≤ stamp + gain := Int.le_add_of_nonneg_right (Int.natCast_nonneg gain)
      exact .put found (Int.lt_add_one_of_le later)
    · exact .refl t

end SceneGpu.Files
