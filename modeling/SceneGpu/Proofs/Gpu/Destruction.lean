import SceneGpu.Proofs.Gpu.Holdings
/-!
What the calls say of the buffers over a run of a program. A handle is given to one buffer only, and
what was created is either among the driver's buffers or was destroyed, once. So a buffer is destroyed
once however often the program asks for it.
-/
namespace SceneGpu.Gpu

open Storage (Same)
open Buffer (Undone Making)

def Silent (calls : List Call) : Prop := ∀ h, .buffer h ∉ created calls ∧ .buffer h ∉ destroyed calls

theorem Silent.nil : Silent [] := fun _ => ⟨List.not_mem_nil, List.not_mem_nil⟩

theorem Silent.append {a b : List Call} (first : Silent a) (second : Silent b) : Silent (a ++ b) := by
  intro h
  rw [created_append, destroyed_append, List.mem_append, List.mem_append, not_or, not_or]
  exact ⟨⟨(first h).1, (second h).1⟩, (first h).2, (second h).2⟩

theorem Silent.quiet {calls : List Call} (quiet : ∀ c ∈ calls, c.Quiet) : Silent calls := by
  intro h
  rw [created_of_quiet quiet, destroyed,
    List.filterMap_eq_nil_iff.mpr fun c mem => (quiet c mem).2]
  exact ⟨List.not_mem_nil, List.not_mem_nil⟩

theorem Silent.of_none {c : Call} (creates : ∀ h, c.creates? ≠ some (.buffer h))
    (destroys : ∀ h, c.destroys? ≠ some (.buffer h)) : Silent [c] := by
  intro h
  rw [created_cons, destroyed_cons]
  simpa using ⟨creates h, destroys h⟩

theorem count_destroyed (calls : List Call) (h : Handle) :
    (destroyed calls).count (.buffer h) = calls.count (.destroyBuffer h) := by
  induction calls with
  | nil => rfl
  | cons c rest ih =>
    rw [destroyed_cons, List.count_append, ih, List.count_cons, Nat.add_comm]
    congr 1
    cases c <;> simp [Call.destroys?, List.count_cons]

namespace Storage

def handles (s : Storage) : List Handle := s.buffers.map DriverBuffer.handle

variable {s t : Storage} {made calls : List Call}

/-- What one act does to the storage, with the calls that it adds. -/
inductive Turn (s : Storage) : Storage → List Call → Prop
  | spared {t : Storage} {made : List Call} (same : Same s t) (silent : Silent made) : Turn s t made
  | undone {t : Storage} {made : List Call} (so : Undone s t made) : Turn s t made
  | placed (role : BufferRole) (size length : Nat) (bytes : Nat → UInt8) (usage : UInt32) :
      Turn s ((s.place size length bytes).hold (s.newest role size length))
        [.createBuffer size usage s.nextHandle, .bindMemory s.nextHandle]
  | written (a : Allocation) (offset : Nat) (bytes : List UInt8) :
      Turn s (s.write a offset bytes) []
  | givenUp {r : BufferRef} {role : BufferRole} {h : Handle} {size : Nat} {a : Allocation}
      (held : s.held[r]? = some ⟨role, h, size, some a⟩) : Turn s (s.giveUp r) [.destroyBuffer h]

/-- The calls made so far agree with the storage. No handle is created twice, and each that was
created either is the driver's or has been destroyed, as often as it was created. -/
structure Ledger (s : Storage) (calls : List Call) : Prop where
  sound : s.Sound
  positive : 0 < s.nextHandle
  known : ∀ h, .buffer h ∈ created calls → 0 < h ∧ h < s.nextHandle
  once : ∀ h, (created calls).count (.buffer h) ≤ 1
  balance : ∀ h,
    (created calls).count (.buffer h) = (destroyed calls).count (.buffer h) + s.handles.count h

structure Posting (s t : Storage) (made : List Call) : Prop where
  forward : s.nextHandle ≤ t.nextHandle
  fresh : ∀ h, .buffer h ∈ created made → s.nextHandle ≤ h ∧ h < t.nextHandle
  once : ∀ h, (created made).count (.buffer h) ≤ 1
  balance : ∀ h, (created made).count (.buffer h) + s.handles.count h =
    (destroyed made).count (.buffer h) + t.handles.count h

theorem Ledger.post (ledger : Ledger s calls) (posting : Posting s t made) (sound : t.Sound) :
    Ledger t (calls ++ made) where
  sound := sound
  positive := Nat.lt_of_lt_of_le ledger.positive posting.forward
  known := by
    intro h mem
    rw [created_append, List.mem_append] at mem
    rcases mem with old | new
    · exact (ledger.known h old).imp_right (Nat.lt_of_lt_of_le · posting.forward)
    · exact (posting.fresh h new).imp_left (Nat.lt_of_lt_of_le ledger.positive)
  once := by
    intro h
    rw [created_append, List.count_append]
    by_cases new : .buffer h ∈ created made
    · -- a handle that is new was not given before
      have unknown : .buffer h ∉ created calls := fun old =>
        Nat.not_lt.mpr (posting.fresh h new).1 (ledger.known h old).2
      rw [List.count_eq_zero.mpr unknown, Nat.zero_add]
      exact posting.once h
    · rw [List.count_eq_zero.mpr new]
      exact ledger.once h
  balance := by
    intro h
    have before := ledger.balance h
    have now := posting.balance h
    rw [created_append, destroyed_append, List.count_append, List.count_append]
    omega

theorem Posting.silent (same : Same s t) (silent : Silent made) : Posting s t made where
  forward := same.handles
  fresh := fun h mem => absurd mem (silent h).1
  once := fun h => by rw [List.count_eq_zero.mpr (silent h).1]; exact Nat.zero_le 1
  balance := by
    intro h
    rw [List.count_eq_zero.mpr (silent h).1, List.count_eq_zero.mpr (silent h).2, handles, handles,
      same.buffers]

theorem Posting.undone (so : Undone s t made) : Posting s t made where
  forward := so.same.handles
  fresh := by
    intro h mem
    obtain rfl : h = s.nextHandle := Object.buffer.inj (so.one _ mem)
    exact ⟨Nat.le_refl _, so.used _ mem⟩
  once := fun h => List.nodup_iff_count_le_one.mp so.balanced.once _
  balance := by
    intro h
    rw [so.balanced.all.count_eq, handles, handles, so.same.buffers]

theorem Posting.placed (role : BufferRole) (size length : Nat) (bytes : Nat → UInt8) (usage : UInt32) :
    Posting s ((s.place size length bytes).hold (s.newest role size length))
      [.createBuffer size usage s.nextHandle, .bindMemory s.nextHandle] where
  forward := Nat.le_succ _
  fresh := by
    intro h mem
    obtain rfl : h = s.nextHandle := Object.buffer.inj (List.mem_singleton.mp mem)
    exact ⟨Nat.le_refl _, Nat.lt_succ_self _⟩
  once := fun h => List.nodup_iff_count_le_one.mp (List.nodup_singleton _) _
  balance := by
    intro h
    change [Object.buffer s.nextHandle].count _ + _ = 0 + ((s.buffers ++ [_]).map _).count h
    rw [List.map_append, List.count_append, Nat.zero_add, Nat.add_comm]
    simp [handles, List.count_singleton]

theorem Sound.mem_handles (sound : s.Sound) {r : BufferRef} {role : BufferRole} {h : Handle}
    {size : Nat} {a : Allocation} (held : s.held[r]? = some ⟨role, h, size, some a⟩) :
    h ∈ s.handles := by
  refine List.mem_map.mpr ⟨⟨h, size, some a⟩, ?_, rfl⟩
  rw [sound.buffers]
  exact List.mem_filterMap.mpr ⟨_, List.mem_of_getElem? held, rfl⟩

theorem handles_giveUp {r : BufferRef} {role : BufferRole} {h : Handle} {size : Nat} {a : Allocation}
    (held : s.held[r]? = some ⟨role, h, size, some a⟩) :
    (s.giveUp r).handles = s.handles.filter (· ≠ h) := by
  rw [giveUp, held, handles, handles, List.filter_map]
  rfl

theorem Posting.givenUp (sound : s.Sound) {r : BufferRef} {role : BufferRole} {h : Handle} {size : Nat}
    {a : Allocation} (held : s.held[r]? = some ⟨role, h, size, some a⟩) :
    Posting s (s.giveUp r) [.destroyBuffer h] where
  forward := by
    rw [giveUp, held]
    exact Nat.le_refl _
  fresh := fun _ impossible => nomatch impossible
  once := fun _ => Nat.zero_le 1
  balance := by
    intro other
    change 0 + _ = [Object.buffer h].count _ + _
    rw [handles_giveUp held]
    by_cases same : other = h
    · subst same
      have one := List.count_eq_one_of_mem sound.handles (sound.mem_handles held)
      have none_left : (s.handles.filter (· ≠ other)).count other = 0 :=
        List.count_eq_zero.mpr fun mem => by simpa using List.of_mem_filter mem
      rw [none_left, List.count_singleton_self]
      exact (Nat.zero_add _).trans one
    · have apart : Object.buffer other ∉ [Object.buffer h] := fun mem =>
        same (Object.buffer.inj (List.mem_singleton.mp mem))
      rw [List.count_eq_zero.mpr apart, List.count_filter (by simpa using same)]

theorem Turn.posting (sound : s.Sound) (turn : Turn s t made) : Posting s t made := by
  cases turn with
  | spared same silent => exact .silent same silent
  | undone so => exact .undone so
  | placed role size length bytes usage => exact .placed role size length bytes usage
  | written a offset bytes =>
    refine ⟨Nat.le_refl _, fun _ impossible => (nomatch impossible), fun _ => Nat.zero_le 1, ?_⟩
    exact fun _ => rfl
  | givenUp held => exact .givenUp sound held

namespace Ledger

variable {r : BufferRef} {role : BufferRole} {h : Handle} {size : Nat} {a : Allocation}

theorem alive (ledger : Ledger s calls) (held : s.held[r]? = some ⟨role, h, size, some a⟩) :
    (created calls).count (.buffer h) = 1 ∧ (destroyed calls).count (.buffer h) = 0 := by
  have once := ledger.once h
  have balance := ledger.balance h
  have there := List.count_eq_one_of_mem ledger.sound.handles (ledger.sound.mem_handles held)
  rw [show s.handles.count h = 1 from there] at balance
  omega

theorem handle_ne_zero (ledger : Ledger s calls)
    (held : s.held[r]? = some ⟨role, h, size, some a⟩) : h ≠ 0 := by
  have made := List.count_pos_iff.mp (Nat.lt_of_lt_of_eq Nat.one_pos (ledger.alive held).1.symm)
  exact Nat.ne_of_gt (ledger.known h made).1

theorem gone (ledger : Ledger s calls) (mem : .buffer h ∈ destroyed calls) :
    (created calls).count (.buffer h) = 1 ∧ (destroyed calls).count (.buffer h) = 1 := by
  have once := ledger.once h
  have balance := ledger.balance h
  have some_time := List.count_pos_iff.mpr mem
  omega

end Ledger
end Storage

namespace Machine

/-- What has happened from one machine to the other was not about buffers. -/
structure Spared (m m' : Machine) : Prop where
  same : Same m.storage m'.storage
  calls : ∃ made, m'.calls = m.calls ++ made ∧ Silent made

def Act.Calm : Act → Prop
  | .aside f _ => ∀ m, Spared m (f m)
  | _ => True

def Turned (m m' : Machine) : Prop :=
  ∃ made, m'.calls = m.calls ++ made ∧ Storage.Turn m.storage m'.storage made

theorem Spared.turned {m m' : Machine} (spared : Spared m m') : Turned m m' := by
  obtain ⟨made, calls, silent⟩ := spared.calls
  exact ⟨made, calls, .spared spared.same silent⟩

theorem Spared.refl (m : Machine) : Spared m m := ⟨.refl _, [], (List.append_nil _).symm, .nil⟩

theorem Spared.trans {m m' m'' : Machine} (first : Spared m m') (second : Spared m' m'') :
    Spared m m'' := by
  obtain ⟨made, calls, silent⟩ := first.calls
  obtain ⟨more, later, still⟩ := second.calls
  refine ⟨first.same.trans second.same, made ++ more, ?_, silent.append still⟩
  rw [later, calls, List.append_assoc]

end Machine

def Action.Sparing {α : Type} (x : Action α) : Prop := ∀ m, Machine.Spared m (x m).2

namespace Action.Sparing

variable {α β : Type}

theorem bind {x : Action α} {f : α → Action β} (first : Sparing x) (rest : ∀ a, Sparing (f a)) :
    Sparing (x >>= f) := by
  intro m
  have begun := first m
  cases run : x m with
  | mk result m' =>
    rw [run] at begun
    cases result with
    | error e =>
      rw [Effect.bind_of_error run]
      exact begun
    | ok a =>
      rw [Effect.bind_of_ok run]
      exact begun.trans (rest a m')

theorem within {x : Action α} (spares : Sparing x) (context : String) : Sparing (x.within context) :=
  spares

theorem called {c : Call} (silent : Silent [c]) : Sparing (called c) :=
  fun _ => ⟨.refl _, [c], rfl, silent⟩

theorem attempt (f : Function) : Sparing (attempt f) := by
  intro m
  unfold Action.attempt
  cases m.nextFailure f with
  | none => exact ⟨.refl _, [], (List.append_nil _).symm, .nil⟩
  | some code => exact ⟨.refl _, [.failed f code], rfl, .quiet (Call.quiet_failed f code)⟩

theorem fresh : Sparing fresh := fun m =>
  ⟨⟨rfl, rfl, rfl, Nat.le_succ _, Nat.le_refl _⟩, [], (List.append_nil m.calls).symm, .nil⟩

theorem create (f : Function) {call : Handle → Call} (silent : ∀ h, Silent [call h]) :
    Sparing (create f call) :=
  (attempt f).bind fun _ => fresh.bind fun h => (called (silent h)).bind fun _ => fun m => .refl m

end Action.Sparing

namespace Buffer

open Machine (Turned Spared)

theorem Making.turn {role : BufferRole} {size : Nat} {s t : Storage} {made : List Call}
    {result : Except Failure BufferRef} (making : Making role size s result t made) :
    Storage.Turn s t made := by
  cases making with
  | undone e so => exact .undone so
  | made usage length bytes => exact .placed role size length bytes usage

theorem Written.turned {m m' : Machine} (written : Written m m') : Turned m m' := by
  cases written with
  | refused => exact (Spared.refl m).turned
  | done a offset bytes => exact ⟨[], (List.append_nil _).symm, .written a offset bytes⟩

theorem destroy_ok (r : BufferRef) (m : Machine) : (destroy r m).1 = .ok () := by
  unfold destroy
  rw [get?_bind]
  cases m.held[r]? with
  | none => rfl
  | some b => obtain ⟨role, h, size, _ | a⟩ := b <;> rfl

theorem destroy_again {r : BufferRef} {m : Machine} {b : HostBuffer} (held : m.held[r]? = some b)
    (gone : b.allocation = none) : destroy r m = (.ok (), m) := by
  obtain ⟨inside, there⟩ := List.getElem?_eq_some_iff.mp held
  have same : m.held.set r b = m.held := there ▸ List.set_getElem_self inside
  obtain ⟨role, h, size, _ | a⟩ := b
  swap
  · cases gone
  unfold destroy
  rw [get?_bind, held]
  change (Except.ok (), { m with held := m.held.set r ⟨role, h, size, none⟩ }) = _
  rw [same]

theorem write_gone {r : BufferRef} {m : Machine} {b : HostBuffer} (held : m.held[r]? = some b)
    (gone : b.allocation = none) (offset : Nat) (bytes : List UInt8) :
    write r offset bytes m = (.error (.plain (b.role.name ++ " is not mapped")), m) := by
  unfold write
  rw [get?_bind, held]
  dsimp only
  rw [gone]
  rfl

theorem writeMember_gone {r : BufferRef} {m : Machine} {s : Spec} {h : Handle} {size : Nat}
    (held : m.held[r]? = some ⟨.uniform s, h, size, none⟩) (member : String) (bytes : List UInt8) :
    ∃ e, writeMember r member bytes m = (.error e, m) := by
  rw [writeMember_of_uniform held]
  cases s.writeRange member bytes.length with
  | error e => exact ⟨e, rfl⟩
  | ok range => exact ⟨_, rfl⟩

theorem destroy_calls {r : BufferRef} {m : Machine} {role : BufferRole} {h : Handle} {size : Nat}
    {a : Allocation} (held : m.held[r]? = some ⟨role, h, size, some a⟩) :
    (destroy r m).2.calls = m.calls ++ [.destroyBuffer h] := by
  unfold destroy
  rw [get?_bind, held]
  rfl

theorem destroy_turned (r : BufferRef) (m : Machine) : Turned m (destroy r m).2 := by
  cases held : m.held[r]? with
  | none =>
    unfold destroy
    rw [get?_bind, held]
    exact (Spared.refl m).turned
  | some b =>
    obtain ⟨role, h, size, _ | a⟩ := b
    · rw [destroy_again held rfl]
      exact (Spared.refl m).turned
    · refine ⟨[.destroyBuffer h], destroy_calls held, ?_⟩
      rw [destroy_storage]
      exact .givenUp held

end Buffer

namespace Machine

variable {m : Machine} {acts : List Act}

theorem perform_turned (numbered : m.storage.Numbered) {act : Act} (calm : act.Calm) :
    Turned m (m.perform act) := by
  cases act with
  | make d name usage bytes =>
    obtain ⟨made, calls, making⟩ := Buffer.withData_ends d name usage bytes numbered
    exact ⟨made, calls, making.turn⟩
  | makeUniform d spec =>
    obtain ⟨made, calls, making⟩ := Buffer.fromSpec_ends d spec numbered
    exact ⟨made, calls, making.turn⟩
  | write r offset bytes => exact (Buffer.write_written r offset bytes m).turned
  | writeMember r member bytes => exact (Buffer.writeMember_written r member bytes m).turned
  | destroy r => exact Buffer.destroy_turned r m
  | aside f leaves => exact (calm m).turned

def Accounted (m : Machine) : Prop := m.storage.Ledger m.calls

theorem accounted_start (hardware : Hardware) (plan : Plan) : (start hardware plan).Accounted where
  sound := sound_start hardware plan
  positive := Nat.one_pos
  known := fun _ impossible => nomatch impossible
  once := fun _ => Nat.zero_le 1
  balance := fun _ => rfl

theorem Accounted.perform (accounted : m.Accounted) {act : Act} (calm : act.Calm) :
    (m.perform act).Accounted ∧ m.calls <+: (m.perform act).calls := by
  obtain ⟨made, calls, turn⟩ := perform_turned accounted.sound.numbered calm
  have sound := (perform_change accounted.sound.numbered act).sound accounted.sound
  refine ⟨?_, made, calls.symm⟩
  rw [Accounted, calls]
  exact accounted.post (turn.posting accounted.sound) sound

theorem Accounted.performAll (accounted : m.Accounted) (calm : ∀ act ∈ acts, act.Calm) :
    (m.performAll acts).Accounted ∧ m.calls <+: (m.performAll acts).calls := by
  induction acts generalizing m with
  | nil => exact ⟨accounted, List.prefix_rfl⟩
  | cons act rest ih =>
    obtain ⟨first, others⟩ := List.forall_mem_cons.mp calm
    obtain ⟨now, grown⟩ := accounted.perform first
    obtain ⟨later, grownLater⟩ := ih now others
    exact ⟨later, grown.trans grownLater⟩

variable {r : BufferRef} {b : HostBuffer}

theorem perform_gone (numbered : m.storage.Numbered) (held : m.held[r]? = some b)
    (gone : b.allocation = none) (act : Act) : (m.perform act).held[r]? = some b := by
  by_cases again : act = .destroy r
  · subst again
    change (Buffer.destroy r m).2.held[r]? = some b
    rw [Buffer.destroy_again held gone]
    exact held
  · exact (perform_change numbered act).held held again

theorem performAll_gone (sound : m.storage.Sound) (held : m.held[r]? = some b)
    (gone : b.allocation = none) (acts : List Act) : (m.performAll acts).held[r]? = some b := by
  induction acts generalizing m with
  | nil => exact held
  | cons act rest ih =>
    have change := perform_change sound.numbered act
    exact ih (change.sound sound) (perform_gone sound.numbered held gone act)

/-- It makes no difference whether what is gone is among the buffers to destroy. -/
theorem performAll_destroy_filter (sound : m.storage.Sound) (held : m.held[r]? = some b)
    (gone : b.allocation = none) (rs : List BufferRef) :
    m.performAll (rs.map .destroy) = m.performAll ((rs.filter (· ≠ r)).map .destroy) := by
  induction rs generalizing m with
  | nil => rfl
  | cons x rest ih =>
    by_cases same : x = r
    · subst same
      have nothing : m.perform (.destroy x) = m := congrArg Prod.snd (Buffer.destroy_again held gone)
      rw [List.filter_cons_of_neg (by simp), ← ih sound held, List.map_cons, performAll,
        List.foldl_cons, nothing]
      rfl
    · have change := perform_change sound.numbered (.destroy x)
      rw [List.filter_cons_of_pos (by simpa using same)]
      exact ih (change.sound sound) (perform_gone sound.numbered held gone _)

theorem performAll_destroyed (accounted : m.Accounted) (calm : ∀ act ∈ acts, act.Calm)
    {role : BufferRole} {h : Handle} {size : Nat} {a : Allocation}
    (held : m.held[r]? = some ⟨role, h, size, some a⟩) (asked : .destroy r ∈ acts) :
    (m.performAll acts).held[r]? = some ⟨role, 0, size, none⟩ ∧
      .buffer h ∈ destroyed (m.performAll acts).calls := by
  induction acts generalizing m with
  | nil => cases asked
  | cons act rest ih =>
    obtain ⟨first, others⟩ := List.forall_mem_cons.mp calm
    obtain ⟨now, -⟩ := accounted.perform first
    by_cases here : act = .destroy r
    · subst here
      have emptied : (m.perform (.destroy r)).held[r]? = some ⟨role, 0, size, none⟩ := by
        have inside := (List.getElem?_eq_some_iff.mp held).1
        change (Buffer.destroy r m).2.storage.held[r]? = _
        rw [Buffer.destroy_storage, Storage.giveUp, show m.storage.held[r]? = _ from held]
        exact List.getElem?_set_self inside
      obtain ⟨more, grown⟩ := (now.performAll others).2
      refine ⟨performAll_gone now.sound emptied rfl rest, ?_⟩
      change _ ∈ destroyed ((m.perform (.destroy r)).performAll rest).calls
      rw [← grown, show (m.perform (.destroy r)).calls = m.calls ++ _ from Buffer.destroy_calls held,
        destroyed_append, destroyed_append]
      exact List.mem_append_left _ (List.mem_append_right _ (List.mem_singleton.mpr rfl))
    · have still := (perform_change accounted.sound.numbered act).held held here
      have later := (List.mem_cons.mp asked).resolve_left (Ne.symm here)
      exact ih now others still later

end Machine

namespace HostBuffer

/-- The driver was asked once to destroy the buffer, and nothing can be done with it any more. -/
structure Gone (b : HostBuffer) (r : BufferRef) (m : Machine) : Prop where
  once : m.calls.count (.destroyBuffer b.handle) = 1
  null : m.held[r]? = some { b with handle := 0, allocation := none }
  again : Buffer.destroy r m = (.ok (), m)
  write : ∀ offset bytes,
    Buffer.write r offset bytes m = (.error (.plain (b.role.name ++ " is not mapped")), m)
  writeMember : ∀ spec, b.role = .uniform spec → ∀ member bytes,
    ∃ e, Buffer.writeMember r member bytes m = (.error e, m)

structure Alive (b : HostBuffer) (r : BufferRef) (m : Machine) : Prop where
  never : m.calls.count (.destroyBuffer b.handle) = 0
  stays : m.held[r]? = some b

variable {r : BufferRef} {role : BufferRole} {h : Handle} {size : Nat} {a : Allocation} {m : Machine}
  {acts : List Machine.Act}

theorem gone_performAll (accounted : m.Accounted) (calm : ∀ act ∈ acts, act.Calm)
    (held : m.held[r]? = some ⟨role, h, size, some a⟩) (asked : .destroy r ∈ acts) :
    Gone ⟨role, h, size, some a⟩ r (m.performAll acts) := by
  obtain ⟨null, mem⟩ := Machine.performAll_destroyed accounted calm held asked
  have ledger := (accounted.performAll calm).1
  refine ⟨?_, null, Buffer.destroy_again null rfl, (Buffer.write_gone null rfl :), ?_⟩
  · rw [← count_destroyed]
    exact (ledger.gone mem).2
  · rintro spec rfl
    exact Buffer.writeMember_gone null

theorem alive_performAll (accounted : m.Accounted) (calm : ∀ act ∈ acts, act.Calm)
    (held : m.held[r]? = some ⟨role, h, size, some a⟩) (unasked : .destroy r ∉ acts) :
    Alive ⟨role, h, size, some a⟩ r (m.performAll acts) := by
  have stays := Machine.held_performAll accounted.sound held unasked
  refine ⟨?_, stays⟩
  rw [← count_destroyed]
  exact ((accounted.performAll calm).1.alive stays).2

end HostBuffer

namespace Machine

theorem created_performAll {m : Machine} {acts : List Act} {r : BufferRef} {role : BufferRole}
    {h : Handle} {size : Nat} {a : Allocation} (accounted : m.Accounted)
    (calm : ∀ act ∈ acts, act.Calm) (held : m.held[r]? = some ⟨role, h, size, some a⟩) :
    (created (m.performAll acts).calls).count (.buffer h) = 1 := by
  by_cases asked : .destroy r ∈ acts
  · have mem := (performAll_destroyed accounted calm held asked).2
    exact ((accounted.performAll calm).1.gone mem).1
  · have stays := held_performAll accounted.sound held asked
    exact ((accounted.performAll calm).1.alive stays).1

end Machine
end SceneGpu.Gpu
