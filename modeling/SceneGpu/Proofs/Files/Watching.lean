import SceneGpu.Files.Watch
import SceneGpu.Proofs.Path.Agreement
/-!
What a watcher has pending: of the paths that were reported since it was last drained each one once.
-/
namespace SceneGpu.Files

/-- The reported paths, of those that agree one. -/
structure Collects (reported kept : List Path) : Prop where
  covers : ∀ p ∈ reported, ∃ q ∈ kept, q.agrees p = true
  within : ∀ q ∈ kept, q ∈ reported
  apart : kept.Pairwise fun p q => p.agrees q = false

section Collects

variable {reported kept : List Path}

theorem Collects.nil : Collects [] [] :=
  ⟨by simp, by simp, List.Pairwise.nil⟩

theorem Collects.perm {other : List Path} (collects : Collects reported kept) (same : kept.Perm other) :
    Collects reported other := by
  refine ⟨?_, fun q mem => collects.within q (same.mem_iff.mpr mem), ?_⟩
  · intro p mem
    obtain ⟨q, there, agree⟩ := collects.covers p mem
    exact ⟨q, same.mem_iff.mp there, agree⟩
  · refine (same.pairwise_iff ?_).mp collects.apart
    intro p q differ
    rw [← differ, Bool.eq_iff_iff, Path.agrees_iff_meaning, Path.agrees_iff_meaning]
    exact eq_comm

namespace Watcher

variable {w : Watcher}

theorem collects_tell (collects : Collects reported w.pending) (path : Path) :
    Collects (reported ++ [path]) (w.tell path).pending := by
  unfold tell
  split
  · rename_i known
    obtain ⟨old, there, agree⟩ := List.any_eq_true.mp known
    refine ⟨?_, fun q mem => List.mem_append_left _ (collects.within q mem), collects.apart⟩
    intro p mem
    rcases List.mem_append.mp mem with mem | mem
    · exact collects.covers p mem
    · obtain rfl := List.mem_singleton.mp mem
      exact ⟨old, there, agree⟩
  · rename_i new
    have others : ∀ q ∈ w.pending, q.agrees path = false := by
      intro q mem
      exact Bool.eq_false_iff.mpr fun agree => new (List.any_eq_true.mpr ⟨q, mem, agree⟩)
    refine ⟨?_, ?_, ?_⟩
    · intro p mem
      rcases List.mem_append.mp mem with mem | mem
      · obtain ⟨q, there, agree⟩ := collects.covers p mem
        exact ⟨q, List.mem_append_left _ there, agree⟩
      · obtain rfl := List.mem_singleton.mp mem
        exact ⟨p, List.mem_append_right _ mem, p.agrees_refl⟩
    · intro q mem
      rcases List.mem_append.mp mem with mem | mem
      · exact List.mem_append_left _ (collects.within q mem)
      · exact List.mem_append_right _ mem
    · refine List.pairwise_append.mpr ⟨collects.apart, List.pairwise_singleton _ _, ?_⟩
      intro q mem p last
      obtain rfl := List.mem_singleton.mp last
      exact others q mem

theorem collects_tellAll (collects : Collects reported w.pending) (paths : List Path) :
    Collects (reported ++ paths) (paths.foldl tell w).pending := by
  induction paths generalizing w reported with
  | nil =>
    rw [List.append_nil]
    exact collects
  | cons path rest ih =>
    rw [List.append_cons]
    exact ih (collects_tell collects path)

end Watcher

def reportedBy : Except String Notification → List Path
  | .ok n => n.changed
  | .error _ => []

theorem Watcher.collects_receive {w : Watcher} (collects : Collects reported w.pending)
    (message : Except String Notification) :
    Collects (reported ++ reportedBy message) (w.receive message).1.pending := by
  cases message with
  | ok n => exact collects_tellAll collects n.changed
  | error text =>
    rw [reportedBy, List.append_nil]
    exact collects

end Collects

end SceneGpu.Files
