import SceneGpu.Gpu.Buffer
import SceneGpu.Proofs.Gpu.Trace
/-!
The buffers of a machine and their memory, taken apart from all else that the machine has. What an
action adds to the calls is told together with its outcome and the storage that it leaves.
-/
namespace SceneGpu.Gpu

/-- Buffers and memory, with the numbers that the next handle and the next allocation will get. -/
structure Storage where
  buffers : List DriverBuffer
  blocks : List MemoryBlock
  held : List HostBuffer
  nextHandle : Handle
  nextAllocation : Nat

def Machine.storage (m : Machine) : Storage :=
  ⟨m.buffers, m.blocks, m.held, m.nextHandle, m.nextAllocation⟩

namespace Storage

def skip (s : Storage) : Storage := { s with nextHandle := s.nextHandle + 1 }

def create (s : Storage) (size : Nat) : Storage :=
  { s.skip with buffers := s.buffers ++ [⟨s.nextHandle, size, none⟩] }

def destroy (s : Storage) (h : Handle) : Storage :=
  { s with buffers := s.buffers.filter (·.handle ≠ h) }

def next (s : Storage) (length : Nat) : Allocation := ⟨s.nextAllocation, length⟩

def allocate (s : Storage) (length : Nat) : Storage :=
  { s with
    blocks := s.blocks ++ [⟨s.next length, fun _ => 0⟩]
    nextAllocation := s.nextAllocation + 1 }

def free (s : Storage) (a : Allocation) : Storage :=
  { s with blocks := s.blocks.filter fun b => b.allocation ≠ a }

def bind (s : Storage) (h : Handle) (a : Allocation) : Storage :=
  { s with buffers := s.buffers.map fun b => if b.handle = h then { b with bound := some a } else b }

def overwrite (old : Nat → UInt8) (offset : Nat) (bytes : List UInt8) : Nat → UInt8 := fun i =>
  if offset ≤ i then (bytes[i - offset]?).getD (old i) else old i

def write (s : Storage) (a : Allocation) (offset : Nat) (bytes : List UInt8) : Storage :=
  { s with blocks := s.blocks.map fun b =>
      if b.allocation = a then { b with bytes := overwrite b.bytes offset bytes } else b }

def hold (s : Storage) (b : HostBuffer) : Storage := { s with held := s.held ++ [b] }

def place (s : Storage) (size length : Nat) (bytes : Nat → UInt8) : Storage where
  buffers := s.buffers ++ [⟨s.nextHandle, size, some (s.next length)⟩]
  blocks := s.blocks ++ [⟨s.next length, bytes⟩]
  held := s.held
  nextHandle := s.nextHandle + 1
  nextAllocation := s.nextAllocation + 1

def newest (s : Storage) (role : BufferRole) (size length : Nat) : HostBuffer :=
  ⟨role, s.nextHandle, size, some (s.next length)⟩

/-- The same buffers and memory; only numbers may have been used up. -/
structure Same (s t : Storage) : Prop where
  buffers : t.buffers = s.buffers
  blocks : t.blocks = s.blocks
  held : t.held = s.held
  handles : s.nextHandle ≤ t.nextHandle
  allocations : s.nextAllocation ≤ t.nextAllocation

theorem Same.refl (s : Storage) : Same s s := ⟨rfl, rfl, rfl, Nat.le_refl _, Nat.le_refl _⟩

theorem Same.trans {s t u : Storage} (first : Same s t) (second : Same t u) : Same s u where
  buffers := second.buffers.trans first.buffers
  blocks := second.blocks.trans first.blocks
  held := second.held.trans first.held
  handles := Nat.le_trans first.handles second.handles
  allocations := Nat.le_trans first.allocations second.allocations

structure Numbered (s : Storage) : Prop where
  handles : ∀ b ∈ s.buffers, b.handle < s.nextHandle
  allocations : ∀ b ∈ s.blocks, b.allocation.id < s.nextAllocation

namespace Numbered

variable {s : Storage}

theorem same {t : Storage} (numbered : s.Numbered) (same : Same s t) : t.Numbered where
  handles := by
    intro b mem
    rw [same.buffers] at mem
    exact Nat.lt_of_lt_of_le (numbered.handles b mem) same.handles
  allocations := by
    intro b mem
    rw [same.blocks] at mem
    exact Nat.lt_of_lt_of_le (numbered.allocations b mem) same.allocations

theorem place (numbered : s.Numbered) (size length : Nat) (bytes : Nat → UInt8) :
    (s.place size length bytes).Numbered where
  handles := by
    intro b mem
    rcases List.mem_append.mp mem with old | new
    · exact Nat.lt_succ_of_lt (numbered.handles b old)
    · rw [List.mem_singleton.mp new]
      exact Nat.lt_succ_self _
  allocations := by
    intro b mem
    rcases List.mem_append.mp mem with old | new
    · exact Nat.lt_succ_of_lt (numbered.allocations b old)
    · rw [List.mem_singleton.mp new]
      exact Nat.lt_succ_self _

theorem handle_ne (numbered : s.Numbered) : ∀ b ∈ s.buffers, b.handle ≠ s.nextHandle :=
  fun b mem => Nat.ne_of_lt (numbered.handles b mem)

theorem allocation_ne (numbered : s.Numbered) (length : Nat) :
    ∀ b ∈ s.blocks, b.allocation ≠ s.next length := by
  intro b mem eq
  have below := numbered.allocations b mem
  rw [eq] at below
  exact Nat.lt_irrefl _ below

theorem other_buffers (numbered : s.Numbered) :
    s.buffers.filter (·.handle ≠ s.nextHandle) = s.buffers :=
  List.filter_eq_self.mpr fun b mem => decide_eq_true (numbered.handle_ne b mem)

theorem other_blocks (numbered : s.Numbered) (length : Nat) :
    s.blocks.filter (fun b => b.allocation ≠ s.next length) = s.blocks :=
  List.filter_eq_self.mpr fun b mem => decide_eq_true (numbered.allocation_ne length b mem)

theorem destroy_create (numbered : s.Numbered) (size : Nat) :
    Same s ((s.create size).destroy s.nextHandle) := by
  refine ⟨?_, rfl, rfl, Nat.le_succ _, Nat.le_refl _⟩
  simp only [create, destroy, List.filter_append, numbered.other_buffers]
  simp

theorem free_create (numbered : s.Numbered) (size length : Nat) :
    Same s ((((s.create size).allocate length).free (s.next length)).destroy s.nextHandle) := by
  refine ⟨(numbered.destroy_create size).buffers, ?_, rfl, Nat.le_succ _, Nat.le_succ _⟩
  change (s.blocks ++ [_]).filter _ = s.blocks
  rw [List.filter_append, numbered.other_blocks]
  simp [next, create, skip]

theorem free_place (numbered : s.Numbered) (size length : Nat) (bytes : Nat → UInt8) :
    Same s (((s.place size length bytes).free (s.next length)).destroy s.nextHandle) := by
  refine ⟨?_, ?_, rfl, Nat.le_succ _, Nat.le_succ _⟩
  · simp only [Storage.place, free, destroy, List.filter_append, numbered.other_buffers]
    simp
  · simp only [Storage.place, free, destroy, List.filter_append, numbered.other_blocks]
    simp

theorem bind_create (numbered : s.Numbered) (size length : Nat) :
    ((s.create size).allocate length).bind s.nextHandle (s.next length) =
      s.place size length fun _ => 0 := by
  have others : s.buffers.map (fun b =>
      if b.handle = s.nextHandle then { b with bound := some (s.next length) } else b) =
        s.buffers := by
    refine (List.map_congr_left fun b mem => ?_).trans (List.map_id _)
    rw [if_neg (numbered.handle_ne b mem)]
    rfl
  simp only [create, skip, allocate, bind, Storage.place, List.map_append, others]
  simp [next]

theorem write_place (numbered : s.Numbered) (size length offset : Nat) (old : Nat → UInt8)
    (bytes : List UInt8) : (s.place size length old).write (s.next length) offset bytes =
      s.place size length (overwrite old offset bytes) := by
  have others : s.blocks.map (fun b => if b.allocation = s.next length then
      { b with bytes := overwrite b.bytes offset bytes } else b) = s.blocks := by
    refine (List.map_congr_left fun b mem => ?_).trans (List.map_id _)
    rw [if_neg (numbered.allocation_ne length b mem)]
    rfl
  simp only [Storage.place, write, List.map_append, others]
  simp

end Numbered
end Storage

namespace Action

variable {α β : Type}

def Ends (x : Action α) (m : Machine) (told : Except Failure α → Storage → List Call → Prop) : Prop :=
  ∃ made, (x m).2.calls = m.calls ++ made ∧ told (x m).1 (x m).2.storage made

namespace Ends

variable {m : Machine} {told : Except Failure α → Storage → List Call → Prop}
  {next : Except Failure β → Storage → List Call → Prop}

theorem mono {x : Action α} {next : Except Failure α → Storage → List Call → Prop}
    (ends : Ends x m told) (follows : ∀ r s made, told r s made → next r s made) :
    Ends x m next := by
  obtain ⟨made, grown, said⟩ := ends
  exact ⟨made, grown, follows _ _ _ said⟩

theorem bind {x : Action α} {f : α → Action β} (first : Ends x m told)
    (stops : ∀ e s made, told (.error e) s made → next (.error e) s made)
    (rest : ∀ a m' made, told (.ok a) m'.storage made →
      Ends (f a) m' fun r s more => next r s (made ++ more)) : Ends (x >>= f) m next := by
  obtain ⟨made, grown, said⟩ := first
  cases run : x m with
  | mk result m' =>
    rw [run] at grown said
    cases result with
    | error e =>
      rw [Ends, Effect.bind_of_error run]
      exact ⟨made, grown, stops e _ made said⟩
    | ok a =>
      rw [Ends, Effect.bind_of_ok run]
      obtain ⟨more, later, saidLater⟩ := rest a m' made said
      exact ⟨made ++ more, by rw [later, grown, List.append_assoc], saidLater⟩

theorem orElseDo {x : Action α} {cleanUp : Action Unit}
    {next : Except Failure α → Storage → List Call → Prop} (first : Ends x m told)
    (kept : ∀ a s made, told (.ok a) s made → next (.ok a) s made)
    (stops : ∀ e m' made, told (.error e) m'.storage made →
      Ends cleanUp m' fun _ s more => next (.error e) s (made ++ more)) :
    Ends (x.orElseDo cleanUp) m next := by
  obtain ⟨made, grown, said⟩ := first
  unfold Ends Effect.orElseDo
  cases run : x m with
  | mk result m' =>
    rw [run] at grown said
    cases result with
    | ok a => exact ⟨made, grown, kept a _ made said⟩
    | error e =>
      obtain ⟨more, later, saidLater⟩ := stops e m' made said
      exact ⟨made ++ more, by rw [later, grown, List.append_assoc], saidLater⟩

theorem mapFailure {x : Action α} {next : Except Failure α → Storage → List Call → Prop}
    {f : Failure → Failure} (ends : Ends x m told)
    (follows : ∀ r s made, told r s made → next (r.mapError f) s made) :
    Ends (x.mapFailure f) m next := by
  obtain ⟨made, grown, said⟩ := ends
  exact ⟨made, grown, follows _ _ _ said⟩

theorem pure {a : α} (done : told (.ok a) m.storage []) : Ends (Pure.pure a : Action α) m told :=
  ⟨[], (List.append_nil _).symm, done⟩

theorem get {f : Machine → Action β} (rest : Ends (f m) m next) : Ends (Effect.get >>= f) m next := rest

theorem fail {e : Failure} (done : told (.error e) m.storage []) :
    Ends (Effect.fail e : Action α) m told :=
  ⟨[], (List.append_nil _).symm, done⟩

end Ends

/-- The two endings of a step: it gives this value with this storage and these calls, or it fails and
its storage and calls are such. -/
inductive Ending (a : α) (s : Storage) (made : List Call) (failing : Storage → List Call → Prop) :
    Except Failure α → Storage → List Call → Prop
  | done : Ending a s made failing (.ok a) s made
  | failed (e : Failure) {t : Storage} {more : List Call} (so : failing t more) :
      Ending a s made failing (.error e) t more

def Refusal (f : Function) (s t : Storage) (made : List Call) : Prop :=
  t = s ∧ ∃ code, made = [.failed f code]

namespace Ends

variable {a : α} {s : Storage} {made : List Call} {failing : Storage → List Call → Prop}
  {m : Machine} {x : Action α}

theorem step {f : α → Action β} {next : Except Failure β → Storage → List Call → Prop}
    (first : Ends x m (Ending a s made failing))
    (stops : ∀ e t more, failing t more → next (.error e) t more)
    (rest : ∀ m', m'.storage = s → Ends (f a) m' fun r t more => next r t (made ++ more)) :
    Ends (x >>= f) m next := by
  refine first.bind ?_ ?_
  · rintro e t more ⟨⟩
    rename_i so
    exact stops e t more so
  · intro b m' more said
    generalize left : m'.storage = t at said
    cases said
    exact rest m' left

theorem cleaned {cleanUp : Action Unit} {cleared : Storage → List Call → Prop}
    (first : Ends x m (Ending a s made failing))
    (cleans : ∀ m' more, failing m'.storage more →
      Ends cleanUp m' fun _ t later => cleared t (more ++ later)) :
    Ends (x.orElseDo cleanUp) m (Ending a s made cleared) := by
  refine first.orElseDo ?_ ?_
  · rintro b t more ⟨⟩
    exact .done
  · rintro e m' more ⟨⟩
    rename_i so
    exact (cleans m' more so).mono fun _ t later clear => .failed e clear

theorem renamed {f : Failure → Failure} (ends : Ends x m (Ending a s made failing)) :
    Ends (x.mapFailure f) m (Ending a s made failing) := by
  refine ends.mapFailure ?_
  rintro r t more ⟨⟩
  · exact .done
  · exact .failed _ ‹_›

end Ends

theorem attempt_ends (f : Function) (m : Machine) :
    Ends (attempt f) m (Ending () m.storage [] (Refusal f m.storage)) := by
  unfold Ends attempt
  cases m.nextFailure f with
  | none => exact ⟨[], (List.append_nil m.calls).symm, .done⟩
  | some code => exact ⟨[.failed f code], rfl, .failed _ ⟨rfl, code, rfl⟩⟩

theorem create_ends (f : Function) (call : Handle → Call) (m : Machine) :
    Ends (create f call) m
      (Ending m.nextHandle m.storage.skip [call m.nextHandle] (Refusal f m.storage)) := by
  refine (attempt_ends f m).step (fun e _ _ so => .failed e so) ?_
  intro m' same
  rw [show m.nextHandle = m'.nextHandle from congrArg Storage.nextHandle same.symm, ← same]
  exact ⟨[call m'.nextHandle], rfl, .done⟩

def Idle (x : Action α) : Prop := ∀ m, Ends x m fun _ s made => s = m.storage ∧ made = []

namespace Idle

theorem get : Idle (Effect.get : Action Machine) := fun _ => ⟨[], (List.append_nil _).symm, rfl, rfl⟩

theorem say (rs : List Record) : Idle (Action.say rs) :=
  fun _ => ⟨[], (List.append_nil _).symm, rfl, rfl⟩

theorem pure (a : α) : Idle (Pure.pure a : Action α) := fun _ => .pure ⟨rfl, rfl⟩

theorem fail (e : Failure) : Idle (Effect.fail e : Action α) := fun _ => .fail ⟨rfl, rfl⟩

theorem bind {x : Action α} {f : α → Action β} (first : Idle x) (rest : ∀ a, Idle (f a)) :
    Idle (x >>= f) := by
  intro m
  refine (first m).bind (fun _ _ _ said => said) ?_
  rintro a m' made ⟨same, rfl⟩
  rw [← same]
  exact (rest a m').mono fun r s more said => said

theorem ends {x : Action Unit} (idle : Idle x) (m : Machine) :
    Ends x m (Ending () m.storage [] fun s made => s = m.storage ∧ made = []) := by
  refine (idle m).mono ?_
  rintro (e | _) s made ⟨rfl, rfl⟩
  · exact .failed e ⟨rfl, rfl⟩
  · exact .done

end Idle
end Action

namespace Buffer

open SceneGpu.Gpu.Action (Ends Ending Idle Refusal)

theorem requireHostMemory_idle (d : Device) (name : String) : Idle (requireHostMemory d name) := by
  refine Idle.get.bind fun m => Idle.bind ((Idle.say _).bind fun _ => .pure _) fun found => ?_
  split
  · exact .fail _
  · exact .pure ()

theorem tryAllocate_idle : Idle tryAllocate := by
  intro m
  unfold Ends tryAllocate
  split <;> exact ⟨[], (List.append_nil _).symm, rfl, rfl⟩

theorem createHandle_ends (name : String) (size : Nat) (usage : UInt32) (m : Machine) :
    Ends (createHandle name size usage) m (Ending m.nextHandle (m.storage.create size)
      [.createBuffer size usage m.nextHandle] (Refusal .createBuffer m.storage)) := by
  have named := (Action.create_ends .createBuffer (.createBuffer size usage) m).renamed
    (f := .within ("Failed to create buffer " ++ name))
  refine named.step (fun e _ _ so => .failed e so) ?_
  intro m' left
  have added : ({ m'.storage with buffers := m'.storage.buffers ++ [⟨m.nextHandle, size, none⟩] } :
      Storage) = m.storage.create size := by
    rw [left]
    rfl
  refine ⟨[], (List.append_nil _).symm, ?_⟩
  rw [← added]
  exact .done

theorem destroyHandle_ends (h : Handle) (m : Machine) :
    Ends (destroyHandle h) m fun _ s made => s = m.storage.destroy h ∧ made = [.destroyBuffer h] :=
  ⟨[.destroyBuffer h], rfl, rfl, rfl⟩

theorem allocate_ends (name : String) (length : Nat) (m : Machine) :
    Ends (allocate name length) m (Ending (m.storage.next length) (m.storage.allocate length) []
      fun s made => s = m.storage ∧ made = []) := by
  have finish (given : Bool) (m' : Machine) (made : List Call)
      (idle : m'.storage = m.storage ∧ made = []) : Ends (if given then newBlock length
      else Effect.fail ⟨["Failed to allocate memory for " ++ name], .memory "Out of memory"⟩) m'
        fun r s more => Ending (m.storage.next length) (m.storage.allocate length) []
          (fun s made => s = m.storage ∧ made = []) r s (made ++ more) := by
    obtain ⟨same, rfl⟩ := idle
    rw [← same]
    split
    · exact ⟨[], (List.append_nil _).symm, .done⟩
    · exact .fail (.failed _ ⟨rfl, rfl⟩)
  refine (tryAllocate_idle m).bind (fun e _ _ so => .failed e so) fun first m' made idle => ?_
  obtain ⟨same, rfl⟩ := idle
  dsimp only
  rw [← same] at finish ⊢
  split
  · exact (Idle.pure true m').bind (fun e _ _ so => .failed e so) finish
  · exact (tryAllocate_idle m').bind (fun e _ _ so => .failed e so) finish

theorem free_ends (a : Allocation) (m : Machine) :
    Ends (free a) m (Ending () (m.storage.free a) [] fun _ _ => False) :=
  ⟨[], (List.append_nil _).symm, .done⟩

theorem bind_ends (name : String) (h : Handle) (a : Allocation) (m : Machine) :
    Ends (bind name h a) m
      (Ending () (m.storage.bind h a) [.bindMemory h] (Refusal .bindMemory m.storage)) := by
  refine Ends.step (Action.attempt_ends .bindMemory m).renamed (fun e _ _ so => .failed e so) ?_
  intro m' same
  rw [← same]
  exact ⟨[.bindMemory h], rfl, .done⟩

theorem writeMapped_ends (name : String) (a : Allocation) (offset : Nat) (bytes : List UInt8)
    (m : Machine) : Ends (writeMapped name (some a) offset bytes) m
      (Ending () (m.storage.write a offset bytes) [] fun s made => s = m.storage ∧ made = []) := by
  unfold writeMapped
  dsimp only
  split
  · exact ⟨[], (List.append_nil _).symm, .done⟩
  · exact .fail (.failed _ ⟨rfl, rfl⟩)

theorem release_ends (role : BufferRole) (h : Handle) (size : Nat) (a : Allocation) (m : Machine) :
    Ends (release ⟨role, h, size, some a⟩) m (Ending ⟨role, 0, size, none⟩
      ((m.storage.free a).destroy h) [.destroyBuffer h] fun _ _ => False) := by
  refine (free_ends a m).step (fun _ _ _ impossible => impossible.elim) fun m₁ freed => ?_
  rw [← freed]
  exact ⟨[.destroyBuffer h], rfl, .done⟩

end Buffer
end SceneGpu.Gpu
