import SceneGpu.Gpu.Buffer
import SceneGpu.Proofs.Report.Effect
/-!
Which steps of making a buffer touch the buffers the program holds: only the last one, which puts
the new buffer behind all others.
-/
namespace SceneGpu.Gpu

open Effect

theorem le_alignedSize (size : Nat) : size ≤ alignedSize size := by
  simp only [alignedSize, blockAlignment]
  omega

namespace Action

theorem say_held (rs : List Record) : Preserves Machine.held (say rs) := fun _ => rfl

theorem called_held (c : Call) : Preserves Machine.held (called c) := fun _ => rfl

theorem attempt_held (f : Function) : Preserves Machine.held (attempt f) := by
  intro m
  unfold attempt
  split <;> rfl

theorem fresh_held : Preserves Machine.held fresh := fun _ => rfl

theorem create_held (f : Function) (call : Handle → Call) :
    Preserves Machine.held (create f call) := by
  refine (attempt_held f).bind fun _ => fresh_held.bind fun h => ?_
  exact (called_held (call h)).bind fun _ => .pure h

end Action

namespace Buffer

theorem createHandle_held (name : String) (size : Nat) (usage : UInt32) :
    Preserves Machine.held (createHandle name size usage) := by
  refine ((Action.create_held _ _).within _).bind fun h => ?_
  exact Preserves.bind (.change fun _ => rfl) fun _ => .pure h

theorem destroyHandle_held (h : Handle) : Preserves Machine.held (destroyHandle h) :=
  Preserves.bind (.change fun _ => rfl) fun _ => Action.called_held _

theorem requireHostMemory_held (d : Device) (name : String) :
    Preserves Machine.held (requireHostMemory d name) := by
  refine Preserves.get.bind fun m => ?_
  refine Preserves.bind ((Action.say_held _).bind fun _ => .pure _) fun found => ?_
  split
  · exact .fail _
  · exact .succeed _

theorem tryAllocate_held : Preserves Machine.held tryAllocate := by
  intro m
  unfold tryAllocate
  split <;> rfl

theorem allocate_held (name : String) (length : Nat) :
    Preserves Machine.held (allocate name length) := by
  have finish (given : Bool) : Preserves Machine.held (if given then newBlock length
      else Effect.fail ⟨["Failed to allocate memory for " ++ name], .memory "Out of memory"⟩) := by
    split
    · exact fun _ => rfl
    · exact .fail _
  refine tryAllocate_held.bind fun first => ?_
  dsimp only
  split
  · exact (Preserves.succeed true).bind finish
  · exact tryAllocate_held.bind finish

theorem free_held (a : Allocation) : Preserves Machine.held (free a) := fun _ => rfl

theorem bind_held (name : String) (h : Handle) (a : Allocation) :
    Preserves Machine.held (bind name h a) := by
  refine ((Action.attempt_held _).within _).bind fun _ => ?_
  exact Preserves.bind (.change fun _ => rfl) fun _ => Action.called_held _

theorem createBound_held (d : Device) (name : String) (size : Nat) (usage : UInt32) :
    Preserves Machine.held (createBound d name size usage) := by
  refine (createHandle_held name size usage).bind fun h => ?_
  refine ((requireHostMemory_held d name).orElseDo (destroyHandle_held h)).bind fun _ => ?_
  refine Preserves.get.bind fun m => ?_
  refine ((allocate_held name _).orElseDo (destroyHandle_held h)).bind fun a => ?_
  refine ((bind_held name h a).orElseDo ?_).bind fun _ => .pure _
  exact (free_held a).bind fun _ => destroyHandle_held h

theorem fromSpec_adds (d : Device) (s : Spec) : Adds Machine.held (fromSpec d s) fun _ _ => True := by
  refine Adds.bind (createBound_held d s.name _ _).adds (fun _ _ _ => trivial) ?_
  intro bound more _ m
  exact ⟨_, rfl, trivial⟩

theorem fromSpec_ok {d : Device} {s : Spec} {m m' : Machine} {r : BufferRef}
    (run : fromSpec d s m = (.ok r, m')) :
    r = m.held.length ∧ ∃ b : HostBuffer, m'.held = m.held ++ [b] ∧
      b.role = .uniform s ∧ b.size = alignedSize s.size := by
  obtain ⟨bound, m₁, created, holds⟩ := bind_ok.mp run
  have kept : m₁.held = m.held := (createBound_held d s.name _ _).of_ok created
  obtain ⟨h, a⟩ := bound
  cases holds
  rw [kept]
  exact ⟨rfl, _, rfl, rfl, rfl⟩

end Buffer
end SceneGpu.Gpu
