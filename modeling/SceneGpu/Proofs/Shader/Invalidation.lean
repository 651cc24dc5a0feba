import Mathlib.Data.List.Perm.Basic
import SceneGpu.Shader.Library
/-!
What an invalidation drops: the entries that a path touches, each of them once. Several paths drop
what any of them touches, in whatever order they come.
-/
namespace SceneGpu.Library

open Files

theorem touches_iff {t : Tree} {path : Path} {e : CacheEntry} : CacheEntry.touches t path e = true ↔
    t.sameFile e.key path = true ∨ t.sameFile e.artifact.path path = true ∨
      ∃ source, e.key.source? = some source ∧ t.sameFile source path = true := by
  simp only [CacheEntry.touches, Bool.or_eq_true, Option.any_eq_true, or_assoc]

def touchedBy (t : Tree) (paths : List Path) (e : CacheEntry) : Bool :=
  paths.any fun path => CacheEntry.touches t path e

def without (l : Library) (t : Tree) (paths : List Path) : Library :=
  { l with cache := l.cache.filter fun e => !touchedBy t paths e }

section without

variable {l : Library} {t : Tree} {paths others : List Path}

@[simp] theorem touchedBy_nil : touchedBy t [] = fun _ => false := rfl

@[simp] theorem touchedBy_singleton (path : Path) :
    touchedBy t [path] = CacheEntry.touches t path := by
  funext e
  simp [touchedBy]

theorem without_nil : l.without t [] = l := by
  simp [without]

theorem without_append :
    l.without t (paths ++ others) = (l.without t paths).without t others := by
  simp only [without, touchedBy, List.any_append, List.filter_filter, Bool.not_or]
  simp only [Bool.and_comm]

theorem touchedBy_perm (same : paths.Perm others) : touchedBy t paths = touchedBy t others := by
  funext e
  exact same.any_eq

theorem without_perm (same : paths.Perm others) : l.without t paths = l.without t others := by
  rw [without, without, touchedBy_perm same]

theorem countP_touchedBy (l : Library) (t : Tree) (paths : List Path) :
    l.cache.countP (touchedBy t paths) + (l.without t paths).cache.length = l.cache.length := by
  have parts := l.cache.length_eq_countP_add_countP (touchedBy t paths)
  simp only [Bool.not_eq_true, Bool.decide_eq_false] at parts
  rw [without, ← List.countP_eq_length_filter]
  exact parts.symm

/-- What the first paths drop, the others cannot drop again. -/
theorem countP_touchedBy_append : l.cache.countP (touchedBy t (paths ++ others)) =
    l.cache.countP (touchedBy t paths) + (l.without t paths).cache.countP (touchedBy t others) := by
  have all := countP_touchedBy l t (paths ++ others)
  have first := countP_touchedBy l t paths
  have second := countP_touchedBy (l.without t paths) t others
  rw [without_append] at all
  omega

end without

theorem invalidate_eq (l : Library) (t : Tree) (path : Path) :
    l.invalidate t path = (l.without t [path], l.cache.countP (touchedBy t [path])) := by
  have kept : (l.invalidate t path).1 = l.without t [path] := by
    simp only [invalidate, without, touchedBy, List.any_cons, List.any_nil, Bool.or_false]
  refine Prod.ext kept ?_
  have all := countP_touchedBy l t [path]
  rw [← kept] at all
  change l.cache.length - (l.invalidate t path).1.cache.length = _
  omega

theorem invalidateAll_eq (l : Library) (t : Tree) (paths : List Path) :
    l.invalidateAll t paths = (l.without t paths, l.cache.countP (touchedBy t paths)) := by
  induction paths generalizing l with
  | nil => simp [invalidateAll, without_nil]
  | cons path rest ih =>
    rw [invalidateAll, invalidate_eq, ih, ← without_append, ← countP_touchedBy_append]
    rfl

end SceneGpu.Library
