import Mathlib.Algebra.GroupWithZero.Nat
import Mathlib.Data.List.Forall2
import SceneGpu.Proofs.Collection.Lists
import SceneGpu.Proofs.Files.Watching
import SceneGpu.Proofs.Shader.Invalidation
/-!
Calls that drop what a watcher reports, step by step: a call drains the watcher, then it visits the
drained paths one after the other. Messages come at any time, and calls may overlap.
-/
namespace SceneGpu.Library

open Files

/-- A call: the paths it has visited of those it drained, the paths left, and what it has dropped. -/
structure Sweep where
  visited : List Path
  left : List Path
  dropped : Nat
deriving DecidableEq, Repr

namespace Sweep

def start (drained : List Path) : Sweep := ⟨[], drained, 0⟩

def drained (sweep : Sweep) : List Path := sweep.visited ++ sweep.left

def visit (sweep : Sweep) (k : Nat) (path : Path) (dropped : Nat) : Sweep :=
  ⟨sweep.visited ++ [path], sweep.left.eraseIdx k, sweep.dropped + dropped⟩

theorem visit_left_perm {sweep : Sweep} {k : Nat} {path : Path} (next : sweep.left[k]? = some path) :
    ([path] ++ sweep.left.eraseIdx k).Perm sweep.left := by
  obtain ⟨inside, rfl⟩ := List.getElem?_eq_some_iff.mp next
  exact List.getElem_cons_eraseIdx_perm inside

theorem visit_drained_perm {sweep : Sweep} {k : Nat} {path : Path}
    (next : sweep.left[k]? = some path) (dropped : Nat) :
    sweep.drained.Perm (sweep.visit k path dropped).drained := by
  rw [drained, drained, visit, List.append_assoc]
  exact (visit_left_perm next).symm.append_left sweep.visited

end Sweep

structure Watched where
  library : Library
  watcher : Watcher
  sweeps : List Sweep

inductive Move where
  | receive (message : Except String Notification)
  | start
  | visit (sweep path : Nat)

namespace Move

def reported : Move → List Path
  | .receive message => reportedBy message
  | _ => []

def LeavesTo (i : Nat) : Move → Prop
  | .visit j _ => j = i
  | _ => True

end Move

namespace Watched

def idle (l : Library) (roots : List (Path × Place)) : Watched := ⟨l, ⟨roots, []⟩, []⟩

/-- A call may visit any of the paths it has left; they are a set. -/
def after (t : Tree) (w : Watched) : Move → Watched
  | .receive message => { w with watcher := (w.watcher.receive message).1 }
  | .start =>
    { w with watcher := w.watcher.drain.1, sweeps := w.sweeps ++ [.start w.watcher.drain.2] }
  | .visit i k =>
    match w.sweeps[i]? with
    | none => w
    | some sweep =>
      match sweep.left[k]? with
      | none => w
      | some path =>
        let r := w.library.invalidate t path
        { w with library := r.1, sweeps := w.sweeps.set i (sweep.visit k path r.2) }

def run (t : Tree) (w : Watched) (moves : List Move) : Watched := moves.foldl (after t) w

end Watched

structure Log where
  past : List (List Path)
  now : List Path

namespace Log

def after (log : Log) : Move → Log
  | .receive message => { log with now := log.now ++ reportedBy message }
  | .start => ⟨log.past ++ [log.now], []⟩
  | .visit _ _ => log

def run (log : Log) (moves : List Move) : Log := moves.foldl after log

def ofMoves (moves : List Move) : Log := run ⟨[], []⟩ moves

def all (log : Log) : List Path := log.past.flatten ++ log.now

theorem all_after (log : Log) (m : Move) : (log.after m).all = log.all ++ m.reported := by
  cases m with
  | receive message => exact (List.append_assoc ..).symm
  | start => simp [after, all, Move.reported]
  | visit i k => exact (List.append_nil _).symm

theorem all_run (log : Log) (moves : List Move) :
    (log.run moves).all = log.all ++ moves.flatMap Move.reported := by
  induction moves generalizing log with
  | nil => exact (List.append_nil _).symm
  | cons m rest ih =>
    refine (ih (log.after m)).trans ?_
    rw [all_after, List.flatMap_cons, List.append_assoc]

end Log

section steps

variable {t : Tree} {l : Library} {w : Watched} {i k : Nat}

theorem Watched.after_visit {sweep : Sweep} {path : Path} (at_i : w.sweeps[i]? = some sweep)
    (next : sweep.left[k]? = some path) : w.after t (.visit i k) =
      { w with
        library := w.library.without t [path]
        sweeps := w.sweeps.set i
          (sweep.visit k path (w.library.cache.countP (touchedBy t [path]))) } := by
  simp only [after, at_i, next, invalidate_eq]

theorem Watched.after_visit_cases (t : Tree) (w : Watched) (i k : Nat) :
    w.after t (.visit i k) = w ∨
      ∃ sweep path, w.sweeps[i]? = some sweep ∧ sweep.left[k]? = some path := by
  cases at_i : w.sweeps[i]? with
  | none => exact .inl (by simp only [after, at_i])
  | some sweep =>
    cases next : sweep.left[k]? with
    | none => exact .inl (by simp only [after, at_i, next])
    | some path => exact .inr ⟨sweep, path, rfl, next⟩

/-- What the calls have done between them: each drained what was reported before it, once; what they
visited has dropped what it touches, and each entry that is gone was counted once. -/
structure Tallied (t : Tree) (l : Library) (log : Log) (w : Watched) : Prop where
  drained : List.Forall₂ (fun reported sweep => Collects reported sweep.drained) log.past w.sweeps
  pending : Collects log.now w.watcher.pending
  library : w.library = l.without t (w.sweeps.flatMap Sweep.visited)
  counted : (w.sweeps.map Sweep.dropped).sum + w.library.cache.length = l.cache.length

theorem tallied_idle (t : Tree) (l : Library) (roots : List (Path × Place)) :
    Tallied t l ⟨[], []⟩ (.idle l roots) :=
  ⟨.nil, .nil, without_nil.symm, Nat.zero_add _⟩

theorem forall₂_set {α β : Type} {R : α → β → Prop} {as : List α} {bs : List β} {x y : β}
    (related : List.Forall₂ R as bs) (at_i : bs[i]? = some x) (step : ∀ a, R a x → R a y) :
    List.Forall₂ R as (bs.set i y) := by
  induction related generalizing i with
  | nil => exact .nil
  | cons first rest ih =>
    cases i with
    | zero =>
      obtain rfl := Option.some.inj at_i
      exact .cons (step _ first) rest
    | succ i => exact .cons first (ih at_i)

theorem tallied_visit {log : Log} {sweep : Sweep} {path : Path} (tallied : Tallied t l log w)
    (at_i : w.sweeps[i]? = some sweep) (next : sweep.left[k]? = some path) :
    Tallied t l log (w.after t (.visit i k)) := by
  rw [Watched.after_visit at_i next]
  have drained := forall₂_set tallied.drained at_i fun reported collects =>
    collects.perm (Sweep.visit_drained_perm next (w.library.cache.countP (touchedBy t [path])))
  obtain ⟨front, back, whole, set⟩ := set_split at_i
    (sweep.visit k path (w.library.cache.countP (touchedBy t [path])))
  refine ⟨drained, tallied.pending, ?_, ?_⟩
  · have visited : (w.sweeps.flatMap Sweep.visited ++ [path]).Perm
        ((front ++ sweep.visit k path (w.library.cache.countP (touchedBy t [path])) :: back).flatMap
          Sweep.visited) := by
      rw [whole]
      simp only [List.flatMap_append, List.flatMap_cons, Sweep.visit, List.append_assoc]
      exact (List.perm_append_comm.append_left _).append_left _
    rw [set, ← without_perm visited, without_append, ← tallied.library]
  · have counted := tallied.counted
    rw [whole] at counted
    have dropped := countP_touchedBy w.library t [path]
    rw [set]
    simp only [List.map_append, List.map_cons, List.sum_append, List.sum_cons, Sweep.visit] at counted ⊢
    omega

theorem tallied_after {log : Log} (tallied : Tallied t l log w) (m : Move) :
    Tallied t l (log.after m) (w.after t m) := by
  cases m with
  | receive message =>
    exact { tallied with pending := Watcher.collects_receive tallied.pending message }
  | start =>
    refine ⟨?_, .nil, ?_, ?_⟩
    · exact List.rel_append tallied.drained (.cons tallied.pending .nil)
    · simpa [Watched.after, Sweep.start] using tallied.library
    · simpa [Watched.after, Sweep.start] using tallied.counted
  | visit i k =>
    rcases w.after_visit_cases t i k with idle | ⟨sweep, path, at_i, next⟩
    · rw [idle]
      exact tallied
    · exact tallied_visit tallied at_i next

theorem tallied_run {log : Log} (tallied : Tallied t l log w) (moves : List Move) :
    Tallied t l (log.run moves) (w.run t moves) := by
  induction moves generalizing log w with
  | nil => exact tallied
  | cons m rest ih => exact ih (tallied_after tallied m)

def Swept (t : Tree) (i : Nat) (sweep : Sweep) (w w' : Watched) : Prop :=
  ∃ more left, (more ++ left).Perm sweep.left ∧ w'.library = w.library.without t more ∧
    w'.sweeps[i]? = some ⟨sweep.visited ++ more, left,
      sweep.dropped + w.library.cache.countP (touchedBy t more)⟩

theorem Swept.idle {sweep : Sweep} {w' : Watched} (at_i : w'.sweeps[i]? = some sweep)
    (same : w'.library = w.library) : Swept t i sweep w w' := by
  refine ⟨[], sweep.left, .refl _, by rw [same, without_nil], ?_⟩
  simp [at_i]

theorem swept_after {sweep : Sweep} {m : Move} (at_i : w.sweeps[i]? = some sweep)
    (alone : m.LeavesTo i) : Swept t i sweep w (w.after t m) := by
  have inside := (List.getElem?_eq_some_iff.mp at_i).1
  cases m with
  | receive message => exact .idle at_i rfl
  | start => exact .idle ((List.getElem?_append_left inside).trans at_i) rfl
  | visit j k =>
    obtain rfl : j = i := alone
    rcases w.after_visit_cases t j k with idle | ⟨other, path, at_j, next⟩
    · rw [idle]
      exact .idle at_i rfl
    · obtain rfl : sweep = other := Option.some.inj (at_i.symm.trans at_j)
      rw [Watched.after_visit at_i next]
      exact ⟨[path], sweep.left.eraseIdx k, sweep.visit_left_perm next, rfl,
        List.getElem?_set_self inside⟩

theorem swept_run {sweep : Sweep} {moves : List Move} (at_i : w.sweeps[i]? = some sweep)
    (alone : ∀ m ∈ moves, m.LeavesTo i) : Swept t i sweep w (w.run t moves) := by
  induction moves generalizing w sweep with
  | nil => exact .idle at_i rfl
  | cons m rest ih =>
    obtain ⟨first, left, drained, library, at_i'⟩ :=
      swept_after (t := t) at_i (alone m List.mem_cons_self)
    obtain ⟨more, last, drained', library', at_i''⟩ :=
      ih at_i' fun m mem => alone m (List.mem_cons_of_mem _ mem)
    refine ⟨first ++ more, last, ?_, ?_, ?_⟩
    · rw [List.append_assoc]
      exact (drained'.append_left first).trans drained
    · rw [without_append, ← library]
      exact library'
    · rw [countP_touchedBy_append, ← library, ← List.append_assoc, ← Nat.add_assoc]
      exact at_i''

theorem call_alone {during : List Move} {sweep : Sweep}
    (alone : ∀ m ∈ during, m.LeavesTo w.sweeps.length)
    (ended : (w.run t (.start :: during)).sweeps[w.sweeps.length]? = some sweep)
    (done : sweep.left = []) :
    (w.run t (.start :: during)).library = w.library.without t w.watcher.pending ∧
      sweep.dropped = w.library.cache.countP (touchedBy t w.watcher.pending) := by
  have begun : (w.after t .start).sweeps[w.sweeps.length]? = some (.start w.watcher.pending) :=
    List.getElem?_concat_length
  obtain ⟨visited, left, drained, library, ended'⟩ := swept_run (t := t) begun alone
  obtain rfl := Option.some.inj (ended.symm.trans ended')
  obtain rfl : left = [] := done
  have all : visited.Perm w.watcher.pending := by
    rw [List.append_nil] at drained
    exact drained
  refine ⟨library.trans (without_perm all), ?_⟩
  rw [← touchedBy_perm all]
  exact Nat.zero_add _

theorem run_visits {sweep : Sweep} {n : Nat} (at_i : w.sweeps[i]? = some sweep)
    (many : sweep.left.length = n) :
    ∃ last : Sweep, (w.run t (List.replicate n (.visit i 0))).sweeps[i]? = some last ∧
      last.left = [] := by
  induction n generalizing w sweep with
  | zero => exact ⟨sweep, at_i, List.length_eq_zero_iff.mp many⟩
  | succ n ih =>
    obtain ⟨path, rest, eq⟩ := List.exists_cons_of_length_eq_add_one many
    have next : sweep.left[0]? = some path := by rw [eq]; rfl
    have at_i' : (w.after t (.visit i 0)).sweeps[i]? =
        some (sweep.visit 0 path (w.library.cache.countP (touchedBy t [path]))) := by
      rw [Watched.after_visit at_i next]
      exact List.getElem?_set_self (List.getElem?_eq_some_iff.mp at_i).1
    refine ih at_i' ?_
    rw [Sweep.visit, eq]
    rw [eq] at many
    exact Nat.succ.inj many

end steps

structure Invalidates (l : Library) (t : Tree) : Prop where
  touches : ∀ path e, CacheEntry.touches t path e = true ↔
    t.sameFile e.key path = true ∨ t.sameFile e.artifact.path path = true ∨
      ∃ source, e.key.source? = some source ∧ t.sameFile source path = true
  one : ∀ path, l.invalidate t path =
    ({ l with cache := l.cache.filter fun e => !CacheEntry.touches t path e },
      l.cache.countP (CacheEntry.touches t path))
  all : ∀ paths order, order.Perm paths → l.invalidateAll t order =
    ({ l with cache := l.cache.filter fun e => !touchedBy t paths e },
      l.cache.countP (touchedBy t paths))

/-- What comes of moves on a new watcher: every report belongs to one call or is pending. A call that
is alone does what its paths do at once, and each call can come to its end. -/
structure Sweeps (l : Library) (t : Tree) (roots : List (Path × Place)) (moves : List Move)
    (w : Watched) : Prop where
  reported : (Log.ofMoves moves).all = moves.flatMap Move.reported
  tallied : Tallied t l (Log.ofMoves moves) w
  alone : ∀ during sweep, (∀ m ∈ during, m.LeavesTo w.sweeps.length) →
    (w.run t (.start :: during)).sweeps[w.sweeps.length]? = some sweep → sweep.left = [] →
    ((w.run t (.start :: during)).library, sweep.dropped) =
      w.library.invalidateAll t w.watcher.pending
  ends : ∀ i sweep, w.sweeps[i]? = some sweep →
    ∃ last : Sweep, (w.run t (List.replicate sweep.left.length (.visit i 0))).sweeps[i]? = some last ∧
      last.left = []

theorem sweeps_drop_touched (l : Library) (t : Tree) : Invalidates l t ∧
    ∀ roots moves, Sweeps l t roots moves ((Watched.idle l roots).run t moves) := by
  refine ⟨⟨fun path e => touches_iff, ?_, ?_⟩, ?_⟩
  · intro path
    rw [invalidate_eq, without, touchedBy_singleton]
  · intro paths order same
    rw [invalidateAll_eq, without, touchedBy_perm same]
  · intro roots moves
    refine ⟨Log.all_run ⟨[], []⟩ moves, tallied_run (tallied_idle t l roots) moves, ?_, ?_⟩
    · intro during sweep alone ended done
      obtain ⟨library, dropped⟩ := call_alone alone ended done
      rw [invalidateAll_eq, library, dropped]
    · intro i sweep at_i
      exact run_visits at_i rfl

namespace Recompiled

-- bytecode that is kept as built from the source beside it
def source : Path := Path.ofText "/a.vert"

def bytecode : Path := Path.ofText "/a.vert.spv"

def library : Library :=
  ⟨Path.ofText "/", [⟨bytecode, .source source, some 1, ⟨⟨.vertex, source, [], Specs.empty, []⟩, 0⟩⟩], 1⟩

-- both files are reported; the source once more, when the call has visited the bytecode
def after : Watched := (Watched.idle library []).run (Tree.empty [] 0)
  [.receive (.ok ⟨.modify, [source, bytecode]⟩), .receive (.ok ⟨.remove, [source]⟩), .start,
    .visit 0 1, .receive (.ok ⟨.create, [source]⟩), .visit 0 0]

example : after.library.cache = [] ∧ after.watcher.pending = [source] ∧
    after.sweeps = [⟨[bytecode, source], [], 1⟩] := by
  decide +kernel

end Recompiled

end SceneGpu.Library
