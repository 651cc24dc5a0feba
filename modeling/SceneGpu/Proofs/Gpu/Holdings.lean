import SceneGpu.Proofs.Collection.Lists
import SceneGpu.Proofs.Gpu.Creation
/-!
The driver's buffers and memory over a run of a program: they are just those of the buffers that the
program holds and has not destroyed. So a buffer that is made stands alone with memory of its own.
-/
namespace SceneGpu.Gpu

open Storage (Same)
open Buffer (Making)

def HostBuffer.inDriver? (b : HostBuffer) : Option DriverBuffer :=
  b.allocation.map fun a => ⟨b.handle, b.size, some a⟩

namespace Storage

def giveUp (s : Storage) (r : BufferRef) : Storage :=
  match s.held[r]? with
  | some ⟨role, h, size, some a⟩ =>
    { (s.free a).destroy h with held := s.held.set r ⟨role, 0, size, none⟩ }
  | _ => s

/-- The driver has the buffers and the memory that the program holds, and nothing else. -/
structure Sound (s : Storage) : Prop where
  numbered : s.Numbered
  buffers : s.buffers = s.held.filterMap HostBuffer.inDriver?
  blocks : s.blocks.map MemoryBlock.allocation = s.held.filterMap HostBuffer.allocation
  handles : (s.buffers.map DriverBuffer.handle).Nodup
  allocations : (s.blocks.map MemoryBlock.allocation).Nodup

namespace Sound

variable {s t : Storage}

theorem same (sound : s.Sound) (same : Same s t) : t.Sound where
  numbered := sound.numbered.same same
  buffers := by rw [same.buffers, same.held, sound.buffers]
  blocks := by rw [same.blocks, same.held, sound.blocks]
  handles := same.buffers ▸ sound.handles
  allocations := same.blocks ▸ sound.allocations

theorem place (sound : s.Sound) (role : BufferRole) (size length : Nat) (bytes : Nat → UInt8) :
    ((s.place size length bytes).hold (s.newest role size length)).Sound where
  numbered :=
    let placed := sound.numbered.place size length bytes
    ⟨placed.handles, placed.allocations⟩
  buffers := by
    change s.buffers ++ _ = (s.held ++ _).filterMap _
    rw [List.filterMap_append, ← sound.buffers]
    rfl
  blocks := by
    change (s.blocks ++ _).map _ = (s.held ++ _).filterMap _
    rw [List.filterMap_append, List.map_append, sound.blocks]
    rfl
  handles := by
    change ((s.buffers ++ _).map _).Nodup
    rw [List.map_append, List.map_singleton, ← List.concat_eq_append, List.nodup_concat]
    refine ⟨?_, sound.handles⟩
    intro mem
    obtain ⟨b, there, same⟩ := List.mem_map.mp mem
    exact sound.numbered.handle_ne b there same
  allocations := by
    change ((s.blocks ++ _).map _).Nodup
    rw [List.map_append, List.map_singleton, ← List.concat_eq_append, List.nodup_concat]
    refine ⟨?_, sound.allocations⟩
    intro mem
    obtain ⟨b, there, same⟩ := List.mem_map.mp mem
    exact sound.numbered.allocation_ne length b there same

theorem write (sound : s.Sound) (a : Allocation) (offset : Nat) (bytes : List UInt8) :
    (s.write a offset bytes).Sound := by
  have kept : (s.write a offset bytes).blocks.map MemoryBlock.allocation =
      s.blocks.map MemoryBlock.allocation := by
    simp only [Storage.write, List.map_map]
    refine List.map_congr_left fun b _ => ?_
    simp only [Function.comp_apply]
    split <;> rfl
  refine ⟨⟨sound.numbered.handles, ?_⟩, sound.buffers, kept.trans sound.blocks, sound.handles, ?_⟩
  · intro b mem
    obtain ⟨old, there, same⟩ := List.mem_map.mp (kept ▸ List.mem_map_of_mem mem)
    exact same ▸ sound.numbered.allocations old there
  · exact kept.symm ▸ sound.allocations

theorem giveUp (sound : s.Sound) (r : BufferRef) : (s.giveUp r).Sound := by
  unfold Storage.giveUp
  split
  swap
  · exact sound
  rename_i role h size a there
  -- the entry that is emptied stood for one buffer and for one block, and they are what is taken away
  have buffers : s.buffers.filter (fun b => b.handle ≠ h) =
      (s.held.set r ⟨role, 0, size, none⟩).filterMap HostBuffer.inDriver? := by
    have distinct := sound.handles
    rw [sound.buffers] at distinct ⊢
    exact (filterMap_set HostBuffer.inDriver? _ ⟨role, 0, size, none⟩ there rfl rfl distinct).symm
  have blocks : (s.blocks.filter fun b => b.allocation ≠ a).map MemoryBlock.allocation =
      (s.held.set r ⟨role, 0, size, none⟩).filterMap HostBuffer.allocation := by
    have distinct : ((s.held.filterMap HostBuffer.allocation).map id).Nodup := by
      rw [List.map_id, ← sound.blocks]
      exact sound.allocations
    rw [filterMap_set HostBuffer.allocation id ⟨role, 0, size, none⟩ there rfl rfl distinct,
      ← sound.blocks, List.filter_map]
    rfl
  refine ⟨⟨?_, ?_⟩, buffers, blocks, ?_, ?_⟩
  · exact fun b mem => sound.numbered.handles b (List.mem_of_mem_filter mem)
  · exact fun b mem => sound.numbered.allocations b (List.mem_of_mem_filter mem)
  · exact sound.handles.sublist (List.filter_sublist.map _)
  · exact sound.allocations.sublist (List.filter_sublist.map _)

end Sound
end Storage

namespace Machine

/-- What a program may do on a machine. What does not concern its buffers is aside: it may change all
else, and use up handles. -/
inductive Act where
  | make (d : Device) (name : String) (usage : UInt32) (bytes : List UInt8)
  | makeUniform (d : Device) (spec : Spec)
  | write (r : BufferRef) (offset : Nat) (bytes : List UInt8)
  | writeMember (r : BufferRef) (member : String) (bytes : List UInt8)
  | destroy (r : BufferRef)
  | aside (f : Machine → Machine) (leaves : ∀ m, Same m.storage (f m).storage)

def perform (m : Machine) : Act → Machine
  | .make d name usage bytes => (Buffer.withData d name usage bytes m).2
  | .makeUniform d spec => (Buffer.fromSpec d spec m).2
  | .write r offset bytes => (Buffer.write r offset bytes m).2
  | .writeMember r member bytes => (Buffer.writeMember r member bytes m).2
  | .destroy r => (Buffer.destroy r m).2
  | .aside f _ => f m

def performAll (m : Machine) (acts : List Act) : Machine := acts.foldl perform m

inductive Change (s : Storage) : Act → Storage → Prop
  | same (act : Act) {t : Storage} (same : Same s t) : Change s act t
  | made (act : Act) (role : BufferRole) (size length : Nat) (bytes : Nat → UInt8) :
      Change s act ((s.place size length bytes).hold (s.newest role size length))
  | written (act : Act) (a : Allocation) (offset : Nat) (bytes : List UInt8) :
      Change s act (s.write a offset bytes)
  | givenUp (r : BufferRef) : Change s (.destroy r) (s.giveUp r)

end Machine

namespace Buffer

open Machine (Act Change)

theorem Making.change {role : BufferRole} {size : Nat} {s t : Storage} {made : List Call}
    {r : Except Failure BufferRef} (making : Making role size s r t made) (act : Act) :
    Change s act t := by
  cases making with
  | undone e so => exact .same act so.same
  | made usage length bytes => exact .made act role size length bytes

inductive Written (m : Machine) : Machine → Prop
  | refused : Written m m
  | done (a : Allocation) (offset : Nat) (bytes : List UInt8) : Written m (writeBlock a offset bytes m)

theorem Written.change {m m' : Machine} (written : Written m m') (act : Act) :
    Change m.storage act m'.storage := by
  cases written with
  | refused => exact .same act (.refl _)
  | done a offset bytes => exact .written act a offset bytes

theorem writeMapped_written (name : String) (allocation : Option Allocation) (offset : Nat)
    (bytes : List UInt8) (m : Machine) : Written m (writeMapped name allocation offset bytes m).2 := by
  cases allocation with
  | none => exact .refused
  | some a =>
    unfold writeMapped
    dsimp only
    split
    · exact .done a offset bytes
    · exact .refused

theorem get?_bind {α : Type} (r : BufferRef) (f : Option HostBuffer → Action α) (m : Machine) :
    (get? r >>= f) m = f m.held[r]? m := rfl

theorem write_written (r : BufferRef) (offset : Nat) (bytes : List UInt8) (m : Machine) :
    Written m (write r offset bytes m).2 := by
  unfold write
  rw [get?_bind]
  cases m.held[r]? with
  | none => exact .refused
  | some b => exact writeMapped_written _ _ _ _ m

theorem writeMember_of_uniform {r : BufferRef} {m : Machine} {s : Spec} {h : Handle} {size : Nat}
    {allocation : Option Allocation} (held : m.held[r]? = some ⟨.uniform s, h, size, allocation⟩)
    (member : String) (bytes : List UInt8) : writeMember r member bytes m =
      match s.writeRange member bytes.length with
      | .error e => (.error e, m)
      | .ok range => writeMapped s.name allocation range.1 bytes m := by
  unfold writeMember
  rw [get?_bind, held]
  dsimp only
  cases s.writeRange member bytes.length <;> rfl

theorem writeMember_written (r : BufferRef) (member : String) (bytes : List UInt8) (m : Machine) :
    Written m (writeMember r member bytes m).2 := by
  unfold writeMember
  rw [get?_bind]
  cases m.held[r]? with
  | none => exact .refused
  | some b =>
    obtain ⟨⟨name, usage⟩ | s, h, size, allocation⟩ := b
    · exact .refused
    · dsimp only
      cases s.writeRange member bytes.length with
      | error e => exact .refused
      | ok range => exact writeMapped_written s.name allocation range.1 bytes m

theorem destroy_storage (r : BufferRef) (m : Machine) :
    (destroy r m).2.storage = m.storage.giveUp r := by
  unfold destroy
  rw [get?_bind, Storage.giveUp, show m.storage.held = m.held from rfl]
  cases held : m.held[r]? with
  | none => rfl
  | some b =>
    obtain ⟨role, h, size, allocation⟩ := b
    cases allocation with
    | some a => rfl
    | none =>
      -- what was destroyed already is put back as it is
      obtain ⟨inside, there⟩ := List.getElem?_eq_some_iff.mp held
      have same : m.held.set r ⟨role, h, size, none⟩ = m.held := there ▸ List.set_getElem_self inside
      change ({ m.storage with held := m.held.set r ⟨role, h, size, none⟩ } : Storage) = _
      rw [same]
      rfl

end Buffer

namespace Machine

variable {m : Machine}

theorem perform_change (numbered : m.storage.Numbered) (act : Act) :
    Change m.storage act (m.perform act).storage := by
  cases act with
  | make d name usage bytes =>
    obtain ⟨made, _, making⟩ := Buffer.withData_ends d name usage bytes numbered
    exact making.change _
  | makeUniform d spec =>
    obtain ⟨made, _, making⟩ := Buffer.fromSpec_ends d spec numbered
    exact making.change _
  | write r offset bytes => exact (Buffer.write_written r offset bytes m).change _
  | writeMember r member bytes => exact (Buffer.writeMember_written r member bytes m).change _
  | destroy r =>
    change Change m.storage (.destroy r) (Buffer.destroy r m).2.storage
    rw [Buffer.destroy_storage]
    exact .givenUp r
  | aside f leaves => exact .same _ (leaves m)

theorem Change.sound {s t : Storage} {act : Act} (change : Change s act t) (sound : s.Sound) :
    t.Sound := by
  cases change with
  | same _ same => exact sound.same same
  | made _ role size length bytes => exact sound.place role size length bytes
  | written _ a offset bytes => exact sound.write a offset bytes
  | givenUp r => exact sound.giveUp r

theorem Change.held {s t : Storage} {act : Act} {r : BufferRef} {b : HostBuffer}
    (change : Change s act t) (held : s.held[r]? = some b) (kept : act ≠ .destroy r) :
    t.held[r]? = some b := by
  cases change with
  | same _ same => rw [same.held, held]
  | made _ role size length bytes =>
    have inside : r < s.held.length := (List.getElem?_eq_some_iff.mp held).1
    exact (List.getElem?_append_left inside).trans held
  | written _ a offset bytes => exact held
  | givenUp other =>
    have apart : other ≠ r := fun same => kept (same ▸ rfl)
    unfold Storage.giveUp
    split
    · exact (List.getElem?_set_ne apart).trans held
    · exact held

theorem sound_start (hardware : Hardware) (plan : Plan) : (start hardware plan).storage.Sound where
  numbered := ⟨fun _ impossible => (nomatch impossible), fun _ impossible => nomatch impossible⟩
  buffers := rfl
  blocks := rfl
  handles := .nil
  allocations := .nil

theorem sound_performAll (sound : m.storage.Sound) (acts : List Act) :
    (m.performAll acts).storage.Sound := by
  induction acts generalizing m with
  | nil => exact sound
  | cons act rest ih => exact ih ((perform_change sound.numbered act).sound sound)

theorem held_performAll {r : BufferRef} {b : HostBuffer} (sound : m.storage.Sound)
    (held : m.held[r]? = some b) {acts : List Act} (kept : .destroy r ∉ acts) :
    (m.performAll acts).held[r]? = some b := by
  induction acts generalizing m with
  | nil => exact held
  | cons act rest ih =>
    have change := perform_change sound.numbered act
    rw [List.mem_cons, not_or] at kept
    exact ih (change.sound sound) (change.held held (Ne.symm kept.1)) kept.2

end Machine

namespace Buffer

/-- How the making of a buffer ends. After a failure each buffer that was created has been destroyed,
once, and no memory has stayed behind; after a success there is one more buffer, and it is bound to
memory that nothing else has. -/
inductive AllOrNothing (role : BufferRole) (size : Nat) (m : Machine) :
    Except Failure BufferRef × Machine → Prop
  | nothing (e : Failure) (m' : Machine) (made : List Call) (calls : m'.calls = m.calls ++ made)
      (balanced : Balanced made) (buffers : m'.buffers = m.buffers) (blocks : m'.blocks = m.blocks)
      (held : m'.held = m.held) : AllOrNothing role size m (.error e, m')
  | all (m' : Machine) (made : List Call) (h : Handle) (a : Allocation) (bytes : Nat → UInt8)
      (calls : m'.calls = m.calls ++ made) (once : created made = [.buffer h])
      (stays : Gpu.destroyed made = []) (newBuffer : ∀ b ∈ m.buffers, b.handle ≠ h)
      (newMemory : ∀ b ∈ m.blocks, b.allocation ≠ a)
      (buffers : m'.buffers = m.buffers ++ [⟨h, size, some a⟩])
      (blocks : m'.blocks = m.blocks ++ [⟨a, bytes⟩])
      (held : m'.held = m.held ++ [⟨role, h, size, some a⟩]) :
      AllOrNothing role size m (.ok m.held.length, m')

theorem Making.allOrNothing {role : BufferRole} {size : Nat} {m : Machine} {x : Action BufferRef}
    (numbered : m.storage.Numbered) (ends : Action.Ends x m (Making role size m.storage)) :
    AllOrNothing role size m (x m) := by
  obtain ⟨made, calls, making⟩ := ends
  cases run : x m with
  | mk result m' =>
    rw [run] at calls making
    generalize left : m'.storage = s at making
    cases making with
    | undone e so =>
      refine .nothing e m' made calls so.balanced ?_ ?_ ?_
      · exact (congrArg Storage.buffers left).trans so.same.buffers
      · exact (congrArg Storage.blocks left).trans so.same.blocks
      · exact (congrArg Storage.held left).trans so.same.held
    | made usage length bytes =>
      exact .all m' _ m.storage.nextHandle (m.storage.next length) bytes calls rfl rfl
        numbered.handle_ne (numbered.allocation_ne length) (congrArg Storage.buffers left)
        (congrArg Storage.blocks left) (congrArg Storage.held left)

end Buffer

namespace Machine

structure MakesWhole (m : Machine) : Prop where
  data : ∀ d name usage bytes,
    Buffer.AllOrNothing (.data name usage) bytes.length m (Buffer.withData d name usage bytes m)
  uniform : ∀ d spec,
    Buffer.AllOrNothing (.uniform spec) (alignedSize spec.size) m (Buffer.fromSpec d spec m)

theorem performAll_makes_whole (hardware : Hardware) (plan : Plan) (acts : List Act) :
    MakesWhole ((start hardware plan).performAll acts) := by
  have numbered := (sound_performAll (sound_start hardware plan) acts).numbered
  constructor
  · intro d name usage bytes
    exact Buffer.Making.allOrNothing numbered (Buffer.withData_ends d name usage bytes numbered)
  · intro d spec
    exact Buffer.Making.allOrNothing numbered (Buffer.fromSpec_ends d spec numbered)

end Machine
end SceneGpu.Gpu
