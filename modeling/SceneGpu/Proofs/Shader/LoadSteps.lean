import SceneGpu.Proofs.Files.Overwriting
import SceneGpu.Shader.Library
/-!
A load taken apart into steps: it finds its file and the stamp, looks into the cache, reads and builds,
and stores what it built. The steps of several loads on one library take turns with each other, with
invalidations and with writes.
-/
namespace SceneGpu.Library

open Files

/-- How far a load has come. It has found its file and the file's stamp, then has not found a module
in the cache, then has built one. -/
inductive Loading where
  | stated (requested : Path) (active : Artifact × Option Stamp)
  | missed (requested : Path) (active : Artifact × Option Stamp)
  | built (entry : CacheEntry) (calls : List Compilation) (records : List Record)
  | returned (calls : List Compilation) (outcome : Logged Loaded)

def beginLoad (l : Library) (t : Tree) (path : Path) (owner : Option Path) : Loading :=
  match l.resolve? t path owner with
  | none => .returned [] (Logged.fail (.ofCause (.shaderNotFound path)))
  | some requested => .stated requested (activeArtifact t requested)

def lookUp (l : Library) (requested : Path) (active : Artifact × Option Stamp) : Loading :=
  match l.current? requested active.1 active.2 with
  | some loaded => .returned [] (Logged.succeed loaded)
  | none => .missed requested active

def readAndBuild (s : Services) (l : Library) (t : Tree) (requested : Path)
    (active : Artifact × Option Stamp) : Library × Loading :=
  let b := build s t requested active.1
  match b.outcome.result with
  | .error e => (l, .returned b.calls ⟨b.outcome.records, .error e⟩)
  | .ok m =>
    let entry : CacheEntry := ⟨requested, active.1, active.2, ⟨m, l.builds⟩⟩
    ({ l with builds := l.builds + 1 }, .built entry b.calls b.outcome.records)

def advance (s : Services) (l : Library) (t : Tree) : Loading → Library × Loading
  | .stated requested active => (l, l.lookUp requested active)
  | .missed requested active => readAndBuild s l t requested active
  | .built e calls records =>
    ({ l with cache := store l.cache e }, .returned calls ⟨records, .ok e.loaded⟩)
  | .returned calls outcome => (l, .returned calls outcome)

def Loading.left : Loading → Nat
  | .stated _ _ => 3
  | .missed _ _ => 2
  | .built _ _ _ => 1
  | .returned _ _ => 0

section steps

variable {s : Services} {l : Library} {t : Tree} {requested : Path}
  {active : Artifact × Option Stamp}

theorem beginLoad_unresolved {path : Path} {owner : Option Path}
    (missing : l.resolve? t path owner = none) :
    l.beginLoad t path owner = .returned [] (Logged.fail (.ofCause (.shaderNotFound path))) := by
  simp only [beginLoad, missing]

theorem beginLoad_resolved {path : Path} {owner : Option Path}
    (resolved : l.resolve? t path owner = some requested) :
    l.beginLoad t path owner = .stated requested (activeArtifact t requested) := by
  simp only [beginLoad, resolved]

theorem lookUp_current {loaded : Loaded}
    (current : l.current? requested active.1 active.2 = some loaded) :
    l.lookUp requested active = .returned [] (Logged.succeed loaded) := by
  simp only [lookUp, current]

theorem lookUp_outdated (outdated : l.current? requested active.1 active.2 = none) :
    l.lookUp requested active = .missed requested active := by
  simp only [lookUp, outdated]

theorem readAndBuild_error {e : Failure}
    (fails : (build s t requested active.1).outcome.result = .error e) :
    readAndBuild s l t requested active = (l, .returned (build s t requested active.1).calls
      ⟨(build s t requested active.1).outcome.records, .error e⟩) := by
  unfold readAndBuild
  simp only [fails]

theorem readAndBuild_ok {m : ShaderModule}
    (built : (build s t requested active.1).outcome.result = .ok m) :
    readAndBuild s l t requested active = ({ l with builds := l.builds + 1 },
      .built ⟨requested, active.1, active.2, ⟨m, l.builds⟩⟩ (build s t requested active.1).calls
        (build s t requested active.1).outcome.records) := by
  unfold readAndBuild
  simp only [built]

/-- With nothing in between, the steps are a load. -/
theorem advance_alone (s : Services) (l : Library) (t : Tree) (path : Path) (owner : Option Path) :
    let looked := advance s l t (l.beginLoad t path owner)
    let built := advance s looked.1 t looked.2
    advance s built.1 t built.2 =
      ((l.load s t path owner).library,
        .returned (l.load s t path owner).calls (l.load s t path owner).outcome) := by
  unfold load beginLoad
  cases resolved : l.resolve? t path owner with
  | none => rfl
  | some requested =>
    cases current : l.current? requested (activeArtifact t requested).1
        (activeArtifact t requested).2 with
    | some loaded => simp only [advance, lookUp_current current, current]
    | none =>
      simp only [advance, lookUp_outdated current, current]
      cases result : (build s t requested (activeArtifact t requested).1).outcome.result with
      | error e => simp only [readAndBuild_error result]
      | ok m => simp only [readAndBuild_ok result]

theorem advance_defaultRoot (s : Services) (l : Library) (t : Tree) (x : Loading) :
    (advance s l t x).1.defaultRoot = l.defaultRoot := by
  cases x with
  | stated requested active => rfl
  | missed requested active =>
    rw [advance]
    cases result : (build s t requested active.1).outcome.result with
    | error e => rw [readAndBuild_error result]
    | ok m => rw [readAndBuild_ok result]
  | built e calls records => rfl
  | returned calls outcome => rfl

theorem advance_left (s : Services) (l : Library) (t : Tree) (x : Loading) :
    (advance s l t x).2.left ≤ x.left - 1 := by
  cases x with
  | stated requested active =>
    rw [advance]
    cases current : l.current? requested active.1 active.2 with
    | some loaded => simp [lookUp_current current, Loading.left]
    | none => simp [lookUp_outdated current, Loading.left]
  | missed requested active =>
    rw [advance]
    cases result : (build s t requested active.1).outcome.result with
    | error e => simp [readAndBuild_error result, Loading.left]
    | ok m => simp [readAndBuild_ok result, Loading.left]
  | built e calls records => simp [advance, Loading.left]
  | returned calls outcome => simp [advance, Loading.left]

end steps

theorem Loading.returned_of_left {x : Loading} (done : x.left = 0) :
    ∃ calls outcome, x = .returned calls outcome := by
  cases x with
  | returned calls outcome => exact ⟨calls, outcome, rfl⟩
  | _ => simp [left] at done

structure Shared where
  tree : Tree
  library : Library
  loads : List Loading

inductive Event where
  | write (change : Rewrite)
  | invalidate (path : Path)
  | start (path : Path) (owner : Option Path)
  | step (load : Nat)

namespace Event

def isWrite : Event → Bool
  | .write _ => true
  | _ => false

def moves (load : Nat) : Event → Bool
  | .step n => n == load
  | _ => false

end Event

namespace Shared

def idle (root : Path) (t : Tree) : Shared := ⟨t, withRoot root, []⟩

def after (s : Services) (w : Shared) : Event → Shared
  | .write change => { w with tree := change.apply w.tree }
  | .invalidate path => { w with library := (w.library.invalidate w.tree path).1 }
  | .start path owner => { w with loads := w.loads ++ [w.library.beginLoad w.tree path owner] }
  | .step n =>
    match w.loads[n]? with
    | none => w
    | some x =>
      let r := advance s w.library w.tree x
      { w with library := r.1, loads := w.loads.set n r.2 }

def run (s : Services) (w : Shared) (events : List Event) : Shared := events.foldl (after s) w

def trees (s : Services) (w : Shared) : List Event → List Tree
  | [] => [w.tree]
  | e :: rest => w.tree :: trees s (w.after s e) rest

section trees

variable {s : Services}

theorem mem_trees_first (w : Shared) (events : List Event) : w.tree ∈ trees s w events := by
  cases events with
  | nil => exact List.mem_singleton_self _
  | cons e rest => exact List.mem_cons_self

theorem after_overwritten (w : Shared) (e : Event) : w.tree.Overwritten (w.after s e).tree := by
  cases e with
  | write change => exact change.overwrites w.tree
  | invalidate path => exact .refl w.tree
  | start path owner => exact .refl w.tree
  | step n =>
    simp only [after]
    split <;> exact .refl w.tree

theorem trees_overwritten_first {w : Shared} {events : List Event} {u : Tree}
    (mem : u ∈ trees s w events) : w.tree.Overwritten u := by
  induction events generalizing w with
  | nil =>
    obtain rfl := List.mem_singleton.mp mem
    exact .refl w.tree
  | cons e rest ih =>
    rcases List.mem_cons.mp mem with rfl | mem
    · exact .refl w.tree
    · exact (after_overwritten w e).trans (ih mem)

theorem trees_overwritten_last {w : Shared} {events : List Event} :
    ∀ u ∈ trees s w events, u.Overwritten (w.run s events).tree := by
  induction events generalizing w with
  | nil =>
    intro u mem
    obtain rfl := List.mem_singleton.mp mem
    exact .refl w.tree
  | cons e rest ih =>
    intro u mem
    rcases List.mem_cons.mp mem with rfl | mem
    · exact (after_overwritten w e).trans (ih _ (mem_trees_first (w.after s e) rest))
    · exact ih u mem

theorem after_tree_still (w : Shared) {e : Event} (quiet : e.isWrite = false) :
    (w.after s e).tree = w.tree := by
  cases e with
  | write change => simp [Event.isWrite] at quiet
  | invalidate path => rfl
  | start path owner => rfl
  | step n =>
    simp only [after]
    split <;> rfl

theorem run_tree_still {w : Shared} {events : List Event}
    (still : ∀ e ∈ events, e.isWrite = false) : (w.run s events).tree = w.tree := by
  induction events generalizing w with
  | nil => rfl
  | cons e rest ih =>
    have same := after_tree_still (s := s) w (still e List.mem_cons_self)
    exact (ih fun e later => still e (List.mem_cons_of_mem _ later)).trans same

theorem mem_trees_still {w : Shared} {events : List Event} {u : Tree}
    (still : ∀ e ∈ events, e.isWrite = false) (mem : u ∈ trees s w events) : u = w.tree := by
  induction events generalizing w with
  | nil => exact List.mem_singleton.mp mem
  | cons e rest ih =>
    rcases List.mem_cons.mp mem with rfl | mem
    · rfl
    · rw [← after_tree_still (s := s) w (still e List.mem_cons_self)]
      exact ih (fun e later => still e (List.mem_cons_of_mem _ later)) mem

end trees

theorem after_defaultRoot (s : Services) (w : Shared) (e : Event) :
    (w.after s e).library.defaultRoot = w.library.defaultRoot := by
  cases e with
  | write change => rfl
  | invalidate path => rfl
  | start path owner => rfl
  | step n =>
    simp only [after]
    split
    · rfl
    · exact advance_defaultRoot s _ _ _

theorem run_defaultRoot (s : Services) (w : Shared) (events : List Event) :
    (w.run s events).library.defaultRoot = w.library.defaultRoot := by
  induction events generalizing w with
  | nil => rfl
  | cons e rest ih => exact (ih (w.after s e)).trans (after_defaultRoot s w e)

theorem run_resolve? (s : Services) (root : Path) (t : Tree) (events : List Event) :
    ((idle root t).run s events).library.resolve? = (withRoot root).resolve? := by
  have kept : ((idle root t).run s events).library.defaultRoot = root :=
    run_defaultRoot s (idle root t) events
  funext u path owner
  simp only [resolve?, roots, kept, withRoot]

theorem after_start (s : Services) (w : Shared) (path : Path) (owner : Option Path) :
    (w.after s (.start path owner)).loads[w.loads.length]? =
      some (w.library.beginLoad w.tree path owner) :=
  List.getElem?_concat_length

theorem after_load {s : Services} {w : Shared} {n : Nat} {x : Loading} (at_n : w.loads[n]? = some x)
    (e : Event) : (w.after s e).loads[n]? =
      some (if e.moves n then (advance s w.library w.tree x).2 else x) := by
  have inside : n < w.loads.length := (List.getElem?_eq_some_iff.mp at_n).1
  cases e with
  | write change => exact at_n
  | invalidate path => exact at_n
  | start path owner => simpa [after, Event.moves, List.getElem?_append_left inside] using at_n
  | step m =>
    by_cases own : m = n
    · subst own
      simp only [after, at_n, Event.moves, beq_self_eq_true, ↓reduceIte]
      exact List.getElem?_set_self inside
    · simp only [after, Event.moves, beq_iff_eq, own, ↓reduceIte]
      split
      · exact at_n
      · simpa [List.getElem?_set, own] using at_n

theorem run_left (s : Services) (events : List Event) {w : Shared} {n : Nat} {x : Loading}
    (at_n : w.loads[n]? = some x) : ∃ y, (w.run s events).loads[n]? = some y ∧
      y.left ≤ x.left - events.countP (·.moves n) := by
  induction events generalizing w x with
  | nil => exact ⟨x, at_n, Nat.le_refl _⟩
  | cons e rest ih =>
    obtain ⟨y, at_n', left⟩ := ih (after_load at_n e)
    refine ⟨y, at_n', ?_⟩
    have fewer := advance_left s w.library w.tree x
    rw [List.countP_cons]
    cases own : e.moves n with
    | false =>
      simp only [own, Bool.false_eq_true, ↓reduceIte] at left ⊢
      exact left
    | true =>
      simp only [own, ↓reduceIte] at left ⊢
      omega

theorem run_returned {s : Services} {w : Shared} {events : List Event} {n : Nat}
    {calls : List Compilation} {outcome : Logged Loaded}
    (at_n : w.loads[n]? = some (.returned calls outcome)) :
    (w.run s events).loads[n]? = some (.returned calls outcome) := by
  induction events generalizing w with
  | nil => exact at_n
  | cons e rest ih =>
    have next := after_load (s := s) at_n e
    rw [advance, ite_self] at next
    exact ih next

end Shared

end SceneGpu.Library
