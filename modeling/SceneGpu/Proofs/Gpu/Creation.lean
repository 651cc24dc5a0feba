import SceneGpu.Proofs.Gpu.Lifetimes
import SceneGpu.Proofs.Gpu.Storage
/-!
Making a buffer takes several steps that may fail. Each failure takes back what the steps before it
have made, so that a buffer is there with its memory or nothing of it is.
-/
namespace SceneGpu.Gpu.Buffer

open SceneGpu.Gpu.Action (Ends Ending Refusal)
open Storage (Same)

/-- Nothing is left of what was made since the storage was like this, one buffer at the most. -/
structure Undone (s t : Storage) (made : List Call) : Prop where
  same : Same s t
  balanced : Balanced made
  one : ∀ x ∈ created made, x = .buffer s.nextHandle
  used : ∀ x ∈ created made, s.nextHandle < t.nextHandle

namespace Undone

variable {s t : Storage} {calls : List Call}

theorem quiet (same : Same s t) (quiet : ∀ c ∈ calls, c.Quiet) : Undone s t calls := by
  refine ⟨same, .quiet quiet, ?_, ?_⟩
  all_goals
    rw [created_of_quiet quiet]
    exact fun x impossible => nomatch impossible

theorem bracket (same : Same s t) (used : s.nextHandle < t.nextHandle) (size : Nat) (usage : UInt32)
    (quiet : ∀ c ∈ calls, c.Quiet) :
    Undone s t (.createBuffer size usage s.nextHandle :: (calls ++ [.destroyBuffer s.nextHandle])) := by
  have only : created (calls ++ [.destroyBuffer s.nextHandle]) = [] := by
    rw [created_append, created_of_quiet quiet]
    rfl
  refine ⟨same, (Balanced.quiet quiet).bracket (x := .buffer s.nextHandle) rfl rfl ?_ ?_, ?_,
    fun _ _ => used⟩
  · rw [created_of_quiet quiet]
    exact List.not_mem_nil
  · rw [created_of_quiet quiet]
    exact fun y impossible => nomatch impossible
  · rw [created_cons_of_creates (x := .buffer s.nextHandle) rfl, only]
    exact fun x mem => List.mem_singleton.mp mem

end Undone

section undoing

variable {s : Storage} (d : Device) (name : String) (size length : Nat) (usage : UInt32) {m : Machine}

def UndoneCreate (s t : Storage) (made : List Call) : Prop :=
  Undone s t (.createBuffer size usage s.nextHandle :: made)

-- up to the last step the buffer has no memory, and to destroy it is enough
theorem destroyHandle_undoes (numbered : s.Numbered) {made : List Call}
    (still : m.storage = s.create size ∧ made = []) :
    Ends (destroyHandle s.nextHandle) m fun _ t later => UndoneCreate size usage s t (made ++ later) := by
  obtain ⟨left, rfl⟩ := still
  refine (destroyHandle_ends s.nextHandle m).mono ?_
  rintro _ t _ ⟨rfl, rfl⟩
  rw [left]
  exact .bracket (numbered.destroy_create size) (Nat.lt_succ_self _) size usage (List.forall_mem_nil _)

theorem requireHostMemory_undoes (numbered : s.Numbered) (left : m.storage = s.create size) :
    Ends ((requireHostMemory d name).orElseDo (destroyHandle s.nextHandle)) m
      (Ending () (s.create size) [] (UndoneCreate size usage s)) := by
  rw [← left]
  refine ((requireHostMemory_idle d name).ends m).cleaned fun m' made still => ?_
  exact destroyHandle_undoes size usage numbered (still.imp_left (·.trans left))

theorem allocate_undoes (numbered : s.Numbered) (left : m.storage = s.create size) :
    Ends ((allocate name length).orElseDo (destroyHandle s.nextHandle)) m
      (Ending (s.next length) ((s.create size).allocate length) [] (UndoneCreate size usage s)) := by
  have ends := allocate_ends name length m
  rw [left] at ends
  refine ends.cleaned fun m' made still => ?_
  exact destroyHandle_undoes size usage numbered still

theorem bind_undoes (numbered : s.Numbered)
    (left : m.storage = (s.create size).allocate length) :
    Ends ((bind name s.nextHandle (s.next length)).orElseDo (do
      free (s.next length)
      destroyHandle s.nextHandle)) m
    (Ending () (s.place size length fun _ => 0) [.bindMemory s.nextHandle]
      (UndoneCreate size usage s)) := by
  rw [← numbered.bind_create size length, ← left]
  refine (bind_ends name s.nextHandle (s.next length) m).cleaned ?_
  rintro m₁ _ ⟨same, code, rfl⟩
  refine (free_ends (s.next length) m₁).step (fun _ _ _ impossible => impossible.elim) ?_
  intro m₂ freed
  refine (destroyHandle_ends s.nextHandle m₂).mono ?_
  rintro _ t _ ⟨rfl, rfl⟩
  rw [freed, same, left]
  exact .bracket (numbered.free_create size length) (Nat.lt_succ_self _) size usage
    (Call.quiet_failed .bindMemory code)

end undoing

inductive Bounding (size : Nat) (usage : UInt32) (s : Storage) :
    Except Failure (Handle × Allocation) → Storage → List Call → Prop
  | undone (e : Failure) {t : Storage} {made : List Call} (so : Undone s t made) :
      Bounding size usage s (.error e) t made
  | bound (length : Nat) : Bounding size usage s (.ok (s.nextHandle, s.next length))
      (s.place size length fun _ => 0)
      [.createBuffer size usage s.nextHandle, .bindMemory s.nextHandle]

theorem createBound_ends (d : Device) (name : String) (size : Nat) (usage : UInt32) {m : Machine}
    (numbered : m.storage.Numbered) :
    Ends (createBound d name size usage) m (Bounding size usage m.storage) := by
  refine (createHandle_ends name size usage m).step ?_ ?_
  · rintro e _ _ ⟨rfl, code, rfl⟩
    exact .undone e (.quiet (.refl _) (Call.quiet_failed _ _))
  intro m₁ created
  refine (requireHostMemory_undoes d name size usage numbered created).step
    (fun e _ _ so => .undone e so) fun m₂ required => .get ?_
  refine (allocate_undoes name size _ usage numbered required).step
    (fun e _ _ so => .undone e so) fun m₃ allocated => ?_
  refine (bind_undoes name size _ usage numbered allocated).step
    (fun e _ _ so => .undone e so) fun m₄ bound => ?_
  refine .pure ?_
  rw [bound]
  exact .bound _

inductive Making (role : BufferRole) (size : Nat) (s : Storage) :
    Except Failure BufferRef → Storage → List Call → Prop
  | undone (e : Failure) {t : Storage} {made : List Call} (so : Undone s t made) :
      Making role size s (.error e) t made
  | made (usage : UInt32) (length : Nat) (bytes : Nat → UInt8) : Making role size s
      (.ok s.held.length) ((s.place size length bytes).hold (s.newest role size length))
      [.createBuffer size usage s.nextHandle, .bindMemory s.nextHandle]

theorem hold_ends {b : HostBuffer} {m : Machine}
    {told : Except Failure BufferRef → Storage → List Call → Prop}
    (done : told (.ok m.held.length) (m.storage.hold b) []) : Ends (hold b) m told :=
  ⟨[], (List.append_nil _).symm, done⟩

theorem fromSpec_ends (d : Device) (spec : Spec) {m : Machine} (numbered : m.storage.Numbered) :
    Ends (fromSpec d spec) m (Making (.uniform spec) (alignedSize spec.size) m.storage) := by
  refine (createBound_ends d spec.name _ uniformUsage numbered).bind ?_ ?_
  · rintro e t made ⟨⟩
    exact .undone e ‹_›
  · rintro bound m₁ made said
    generalize left : m₁.storage = t at said
    cases said with
    | bound length =>
      refine hold_ends ?_
      rw [left, show m₁.held = m.held from congrArg Storage.held left]
      exact .made uniformUsage length _

theorem writeMapped_undoes (name : String) (role : BufferRole) (size length : Nat) (usage : UInt32)
    (bytes : List UInt8) {s : Storage} {m : Machine} (numbered : s.Numbered)
    (left : m.storage = s.place size length fun _ => 0) :
    Ends ((writeMapped name (some (s.next length)) 0 bytes).orElseDo (do
      let _ ← release (s.newest role size length))) m
    (Ending () (s.place size length (Storage.overwrite (fun _ => 0) 0 bytes)) [] fun t made =>
      Undone s t (.createBuffer size usage s.nextHandle :: .bindMemory s.nextHandle :: made)) := by
  rw [← numbered.write_place, ← left]
  refine (writeMapped_ends name (s.next length) 0 bytes m).cleaned ?_
  rintro m₁ _ ⟨same, rfl⟩
  refine (release_ends role s.nextHandle size (s.next length) m₁).step
    (fun _ _ _ impossible => impossible.elim) fun m₂ released => .pure ?_
  rw [released, same, left]
  have bind_quiet : ∀ c ∈ [Call.bindMemory s.nextHandle], c.Quiet := by
    intro c mem
    obtain rfl := List.mem_singleton.mp mem
    exact ⟨rfl, rfl⟩
  exact .bracket (numbered.free_place size length _) (Nat.lt_succ_self _) size usage bind_quiet

theorem withData_ends (d : Device) (name : String) (usage : UInt32) (bytes : List UInt8)
    {m : Machine} (numbered : m.storage.Numbered) :
    Ends (withData d name usage bytes) m (Making (.data name usage) bytes.length m.storage) := by
  unfold withData
  split
  · exact .fail (.undone _ (.quiet (.refl _) (List.forall_mem_nil _)))
  refine (createBound_ends d name _ usage numbered).bind ?_ ?_
  · rintro e t made ⟨⟩
    exact .undone e ‹_›
  · rintro bound m₁ made said
    generalize left : m₁.storage = t at said
    cases said with
    | bound length =>
      refine (writeMapped_undoes name (.data name usage) _ length usage bytes numbered left).step
        (fun e _ _ so => .undone e so) fun m₂ written => ?_
      refine hold_ends ?_
      rw [written, show m₂.held = m.held from congrArg Storage.held written]
      exact .made usage length _

end SceneGpu.Gpu.Buffer
