import Mathlib.Order.Bounds.Basic
import SceneGpu.Proofs.Gpu.Holdings
import SceneGpu.Proofs.Shader.Extent
/-!
Writes to the members of a uniform buffer. The room for the members, the range of a write and the
bounds of the memory fit together: a write that the range lets through reaches its bytes and no others.
-/
namespace SceneGpu

def longWord? (n : Nat) : Option UInt64 := if n < 2 ^ 64 then some (UInt64.ofNat n) else none

/-- The aligned size in words of sixty-four bits, or nothing if a step leaves them: blocks are
counted, the last of them perhaps in part. -/
def alignedWord? (size : UInt64) : Option UInt64 := do
  let n := max size 1
  let blocks ← if n % 16 = 0 then some (n / 16) else longWord? ((n / 16).toNat + 1)
  longWord? (blocks.toNat * 16)

theorem longWord?_of_lt {n : Nat} (fits : n < 2 ^ 64) :
    ∃ w, longWord? n = some w ∧ w.toNat = n :=
  ⟨.ofNat n, if_pos fits, UInt64.toNat_ofNat_of_lt' fits⟩

theorem alignedWord?_eq (size : UInt64) : alignedWord? size = longWord? (alignedSize size.toNat) := by
  have word : (max size 1).toNat = max size.toNat 1 := UInt64.toNat_max size 1
  have blocks : ((max size 1) / 16).toNat = max size.toNat 1 / 16 := by
    rw [UInt64.toNat_div, word]
    rfl
  have rest : (max size 1) % 16 = 0 ↔ max size.toNat 1 % 16 = 0 := by
    rw [← UInt64.toNat_inj, UInt64.toNat_mod, word]
    rfl
  have bound := (max size 1).toNat_lt
  unfold alignedWord? alignedSize blockAlignment
  dsimp only
  rw [word] at bound
  split <;> rename_i whole <;> rw [rest] at whole
  · change longWord? ((max size 1 / 16).toNat * 16) = _
    rw [blocks]
    congr 1
    omega
  · obtain ⟨w, counted, count⟩ := longWord?_of_lt (n := (max size 1 / 16).toNat + 1) (by omega)
    rw [counted]
    change longWord? (w.toNat * 16) = _
    rw [count, blocks]
    congr 1
    omega

theorem isLeast_alignedSize (size : Nat) :
    IsLeast {n | 16 ∣ n ∧ max size 1 ≤ n} (alignedSize size) := by
  refine ⟨⟨Nat.dvd_mul_left 16 _, ?_⟩, ?_⟩
  · simp only [alignedSize, blockAlignment]
    omega
  · rintro n ⟨⟨blocks, rfl⟩, room⟩
    simp only [alignedSize, blockAlignment]
    omega

namespace Member

def bytesIn (x : Member) (contents : List UInt8) : List UInt8 :=
  (contents.drop x.offset.toNat).take x.range.toNat

def Apart (x : Member) (start stop : Nat) : Prop :=
  ∀ i, x.offset.toNat ≤ i → i < x.stop → i < start ∨ stop ≤ i

theorem bytesIn_congr {x : Member} {before after : List UInt8}
    (same : ∀ i, x.offset.toNat ≤ i → i < x.stop → after[i]? = before[i]?) :
    x.bytesIn after = x.bytesIn before := by
  apply List.ext_getElem?
  intro i
  unfold bytesIn
  rw [List.getElem?_take, List.getElem?_take]
  split
  · rename_i inside
    rw [List.getElem?_drop, List.getElem?_drop]
    exact same _ (Nat.le_add_right _ _) (Nat.add_lt_add_left inside _)
  · rfl

theorem Apart.bytesIn {x : Member} {start stop : Nat} (apart : x.Apart start stop)
    {before bytes : List UInt8} (inside : stop ≤ before.length) (length : start + bytes.length = stop) :
    x.bytesIn (before.take start ++ bytes ++ before.drop stop) = x.bytesIn before := by
  refine bytesIn_congr fun i low high => ?_
  have room : start ≤ before.length := by omega
  rcases apart i low high with left | right
  · rw [List.append_assoc, List.getElem?_append_left (by simp; omega), List.getElem?_take, if_pos left]
  · have back : (before.take start ++ bytes).length = stop := by simp [room, length]
    rw [List.getElem?_append_right (by omega), List.getElem?_drop, back, Nat.add_sub_of_le right]

end Member

namespace Spec

variable {s : Spec}

theorem stop_le_of_member? {name : String} {x : Member} (found : s.member? name = some x) :
    x.stop ≤ s.size :=
  size_le_iff.mp (Nat.le_refl _) x (List.mem_of_find?_eq_some found)

theorem size_lt (s : Spec) : s.size < 2 ^ 33 := by
  refine Nat.lt_of_le_of_lt (m := 2 ^ 33 - 1) (size_le_iff.mpr fun x _ => ?_) (by decide)
  have offset := x.offset.toNat_lt
  have range := x.range.toNat_lt
  unfold Member.stop
  omega

theorem writeRange_eq_ok {name : String} {length start stop : Nat} :
    s.writeRange name length = .ok (start, stop) ↔ ∃ x, s.member? name = some x ∧
      length ≤ x.range.toNat ∧ start = x.offset.toNat ∧ stop = start + length := by
  unfold writeRange
  cases s.member? name with
  | none => simp
  | some x =>
    dsimp only
    split
    · rename_i short
      simp only [reduceCtorEq, Option.some.injEq, exists_eq_left', false_iff]
      omega
    · rename_i enough
      simp only [Except.ok.injEq, Prod.mk.injEq, Option.some.injEq, exists_eq_left']
      constructor
      · rintro ⟨rfl, rfl⟩
        exact ⟨Nat.le_of_not_lt enough, rfl, rfl⟩
      · rintro ⟨_, rfl, rfl⟩
        exact ⟨rfl, rfl⟩

theorem writeRange_inside {name : String} {length start stop : Nat}
    (range : s.writeRange name length = .ok (start, stop)) : start ≤ stop ∧ stop ≤ s.size := by
  obtain ⟨x, found, enough, rfl, rfl⟩ := writeRange_eq_ok.mp range
  have inside := stop_le_of_member? found
  unfold Member.stop at inside
  omega

end Spec

theorem alignedWord?_size (s : Spec) :
    ∃ w, alignedWord? (.ofNat s.size) = some w ∧ w.toNat = alignedSize s.size := by
  have small := s.size_lt
  rw [alignedWord?_eq, UInt64.toNat_ofNat_of_lt' (Nat.lt_trans small (by decide))]
  refine longWord?_of_lt ?_
  simp only [alignedSize, blockAlignment]
  omega

namespace Gpu

open Storage (overwrite)

theorem map_overwrite {old : Nat → UInt8} {start size : Nat} {bytes : List UInt8}
    (fits : start + bytes.length ≤ size) :
    (List.range size).map (overwrite old start bytes) = ((List.range size).map old).take start ++
      bytes ++ ((List.range size).map old).drop (start + bytes.length) := by
  apply List.ext_getElem
  · simp
    omega
  · intro i inside _
    simp only [List.length_map, List.length_range] at inside
    simp only [overwrite, List.getElem_append, List.getElem_take, List.getElem_drop, List.getElem_map,
      List.getElem_range, List.length_append, List.length_take, List.length_map, List.length_range,
      Nat.min_eq_left (Nat.le_trans (Nat.le_add_right _ _) fits)]
    by_cases before : i < start
    · rw [if_neg (by omega), dif_pos (by omega), dif_pos before]
    · rw [if_pos (by omega)]
      by_cases covered : i < start + bytes.length
      · rw [dif_pos covered, dif_neg before, List.getElem?_eq_getElem (by omega), Option.getD_some]
      · rw [dif_neg covered, List.getElem?_eq_none (by omega), Option.getD_none,
          Nat.add_sub_of_le (by omega)]

namespace Storage

variable {s : Storage} {r : BufferRef} {role : BufferRole} {h : Handle} {size : Nat} {a : Allocation}

namespace Sound

theorem bounds (sound : s.Sound) :
    s.buffers.map DriverBuffer.bound = (s.blocks.map MemoryBlock.allocation).map some := by
  rw [sound.buffers, sound.blocks, List.map_filterMap, List.map_filterMap]
  congr 1
  funext b
  obtain ⟨_, _, _, _ | a⟩ := b <;> rfl

theorem bound_inj (sound : s.Sound) {b c : DriverBuffer} (mem : b ∈ s.buffers)
    (other : c ∈ s.buffers) (same : b.bound = c.bound) : b = c := by
  have distinct : (s.buffers.map DriverBuffer.bound).Nodup := by
    rw [sound.bounds]
    exact sound.allocations.map (Option.some_injective _)
  exact List.inj_on_of_nodup_map distinct mem other same

variable (sound : s.Sound) (held : s.held[r]? = some ⟨role, h, size, some a⟩)

include sound held

theorem mem_buffers : ⟨h, size, some a⟩ ∈ s.buffers := by
  rw [sound.buffers, List.mem_filterMap]
  exact ⟨_, List.mem_of_getElem? held, rfl⟩

theorem exists_block : ∃ block ∈ s.blocks, block.allocation = a := by
  rw [← List.mem_map, sound.blocks, List.mem_filterMap]
  exact ⟨_, List.mem_of_getElem? held, rfl⟩

end Sound
end Storage

namespace Machine

variable {m : Machine} {r : BufferRef} {role : BufferRole} {h : Handle} {size : Nat} {a : Allocation}

theorem block?_writeBlock (m : Machine) (a : Allocation) (offset : Nat) (bytes : List UInt8)
    (b : Allocation) : (Buffer.writeBlock a offset bytes m).block? b =
      (m.block? b).map fun block => if block.allocation = a then
        { block with bytes := overwrite block.bytes offset bytes } else block := by
  unfold block? Buffer.writeBlock
  dsimp only
  rw [List.find?_map]
  congr 1
  congr 1
  funext block
  simp only [Function.comp_apply]
  split <;> rfl

variable (sound : m.storage.Sound) (held : m.held[r]? = some ⟨role, h, size, some a⟩)

include sound held

theorem contents?_of_held (room : size ≤ a.length) : ∃ bytes, m.block? a = some ⟨a, bytes⟩ ∧
    m.contents? h = some ((List.range size).map bytes) := by
  obtain ⟨⟨b, bytes⟩, there, same⟩ := sound.exists_block held
  obtain rfl : a = b := same.symm
  have block : m.block? a = some ⟨a, bytes⟩ := find?_of_nodup sound.allocations there
  have buffer : m.buffers.find? (·.handle = h) = some ⟨h, size, some a⟩ :=
    find?_of_nodup sound.handles (sound.mem_buffers held)
  refine ⟨bytes, block, ?_⟩
  simp only [contents?, buffer, block, bind, Option.bind_some]
  refine congrArg some (List.map_congr_left fun i mem => if_pos ?_)
  exact Nat.lt_of_lt_of_le (List.mem_range.mp mem) room

theorem contents?_writeBlock_of_ne (offset : Nat) (bytes : List UInt8) {other : Handle}
    (ne : other ≠ h) : (Buffer.writeBlock a offset bytes m).contents? other = m.contents? other := by
  unfold contents?
  change (m.buffers.find? _).bind _ = (m.buffers.find? _).bind _
  cases found : m.buffers.find? (·.handle = other) with
  | none => rfl
  | some b =>
    cases bound : b.bound with
    | none => simp only [Option.bind_some, bound, bind, Option.bind_none]
    | some c =>
      -- no two buffers are bound to the same memory
      have apart : c ≠ a := by
        rintro rfl
        have same := sound.bound_inj (List.mem_of_find?_eq_some found) (sound.mem_buffers held) bound
        have named : b.handle = other := by simpa using List.find?_some found
        exact ne (by rw [← named, same])
      have kept : (Buffer.writeBlock a offset bytes m).block? c = m.block? c := by
        rw [block?_writeBlock]
        cases there : m.block? c with
        | none => rfl
        | some block =>
          have owner : block.allocation = c := by simpa using List.find?_some there
          rw [Option.map_some, if_neg (owner ▸ apart)]
      simp only [Option.bind_some, bound, bind, kept]

end Machine

/-- How a write to a member ends, on the buffer of a spec with this handle: either the member or the
length is refused and all is as before, or the bytes stand in their range and all else is as before. -/
inductive MemberWrite (s : Spec) (h : Handle) (name : String) (bytes : List UInt8) (m : Machine) :
    Except Failure Unit × Machine → Prop
  | refused (e : Failure) (range : s.writeRange name bytes.length = .error e) :
      MemberWrite s h name bytes m (.error e, m)
  | accepted (m' : Machine) (start stop : Nat) (before after : List UInt8)
      (range : s.writeRange name bytes.length = .ok (start, stop))
      (held : m.contents? h = some before) (room : before.length = alignedSize s.size)
      (holds : m'.contents? h = some after)
      (written : after = before.take start ++ bytes ++ before.drop stop)
      (members : ∀ x ∈ s.members, x.Apart start stop → x.bytesIn after = x.bytesIn before)
      (others : ∀ other, other ≠ h → m'.contents? other = m.contents? other)
      (rest : m' = { m with blocks := m'.blocks }) : MemberWrite s h name bytes m (.ok (), m')

namespace Buffer

variable {s : Spec} {r : BufferRef} {h : Handle} {a : Allocation} {m : Machine}

theorem writeMember_ends (sound : m.storage.Sound)
    (held : m.held[r]? = some ⟨.uniform s, h, alignedSize s.size, some a⟩)
    (room : alignedSize s.size ≤ a.length) (name : String) (bytes : List UInt8) :
    MemberWrite s h name bytes m (writeMember r name bytes m) := by
  rw [writeMember_of_uniform held]
  cases range : s.writeRange name bytes.length with
  | error e => exact .refused e range
  | ok bounds =>
    obtain ⟨start, stop⟩ := bounds
    have inside := (Spec.writeRange_inside range).2
    obtain ⟨x, _, _, _, length⟩ := Spec.writeRange_eq_ok.mp range
    have fits : start + bytes.length ≤ alignedSize s.size := by
      have aligned : max s.size 1 ≤ alignedSize s.size := (isLeast_alignedSize s.size).1.2
      omega
    have run : writeMapped s.name (some a) start bytes m = (.ok (), writeBlock a start bytes m) := by
      unfold writeMapped
      dsimp only
      rw [if_pos (Nat.le_trans fits room)]
      rfl
    dsimp only
    rw [run]
    -- the same buffer is looked at before and after the write
    obtain ⟨old, block, before⟩ := Machine.contents?_of_held sound held room
    obtain ⟨new, block', after⟩ :=
      Machine.contents?_of_held (m := writeBlock a start bytes m) (sound.write a start bytes) held room
    have same : new = overwrite old start bytes := by
      rw [Machine.block?_writeBlock, block, Option.map_some, if_pos rfl] at block'
      exact (congrArg MemoryBlock.bytes (Option.some.inj block')).symm
    rw [same, map_overwrite fits, ← length] at after
    refine .accepted _ start stop _ _ range before (by simp) after rfl ?_ ?_ rfl
    · intro x _ apart
      exact apart.bytesIn (by simp; omega) length.symm
    · intro other ne
      exact Machine.contents?_writeBlock_of_ne sound held start bytes ne

theorem fromSpec_held {d : Device} {m' : Machine} (numbered : m.storage.Numbered)
    (run : fromSpec d s m = (.ok r, m')) :
    ∃ h a, m'.held[r]? = some ⟨.uniform s, h, alignedSize s.size, some a⟩ := by
  obtain ⟨made, _, making⟩ := fromSpec_ends d s numbered
  rw [run] at making
  generalize left : m'.storage = t at making
  cases making with
  | made usage length bytes =>
    refine ⟨m.storage.nextHandle, m.storage.next length, ?_⟩
    rw [show m'.held = m.held ++ [_] from congrArg Storage.held left]
    exact List.getElem?_concat_length

end Buffer
end Gpu

open Gpu

namespace Spec

/-- Writes to the members of a uniform block, from the room that the block has down to the bytes of
its buffer, at any time until the buffer is destroyed. -/
structure MemberWrites (s : Spec) : Prop where
  least : IsLeast {n | 16 ∣ n ∧ max s.size 1 ≤ n} (alignedSize s.size)
  words : s.size < 2 ^ 64 ∧
    ∃ w, alignedWord? (.ofNat s.size) = some w ∧ w.toNat = alignedSize s.size
  range : ∀ name length start stop, s.writeRange name length = .ok (start, stop) ↔
    ∃ x, s.member? name = some x ∧ length ≤ x.range.toNat ∧ start = x.offset.toNat ∧
      stop = start + length
  inside : ∀ name length start stop, s.writeRange name length = .ok (start, stop) →
    start ≤ stop ∧ stop ≤ s.size
  writes : ∀ hardware plan acts d r m',
    Buffer.fromSpec d s ((Machine.start hardware plan).performAll acts) = (.ok r, m') →
    ∃ h a, m'.held[r]? = some ⟨.uniform s, h, alignedSize s.size, some a⟩ ∧
      (alignedSize s.size ≤ a.length → ∀ later, .destroy r ∉ later → ∀ name bytes,
        MemberWrite s h name bytes (m'.performAll later)
          (Buffer.writeMember r name bytes (m'.performAll later)))

theorem member_writes (s : Spec) : MemberWrites s where
  least := isLeast_alignedSize s.size
  words := ⟨Nat.lt_trans s.size_lt (by decide), alignedWord?_size s⟩
  range _ _ _ _ := writeRange_eq_ok
  inside _ _ _ _ := writeRange_inside
  writes := by
    intro hardware plan acts d r m' run
    have sound := Machine.sound_performAll (Machine.sound_start hardware plan) acts
    obtain ⟨h, a, held⟩ := Buffer.fromSpec_held sound.numbered run
    refine ⟨h, a, held, ?_⟩
    intro room later kept name bytes
    have made : m'.storage.Sound := by
      have change := Machine.perform_change sound.numbered (.makeUniform d s)
      rw [Machine.perform, run] at change
      exact change.sound sound
    exact Buffer.writeMember_ends (Machine.sound_performAll made later)
      (Machine.held_performAll made held kept) room name bytes

/- A lamp of two members, made behind another buffer that is destroyed before the write. -/
namespace Lamp

def spec : Spec := ⟨"Lamp", 0, 1, .uniformBuffer, [⟨"color", 0, 0, 16⟩, ⟨"intensity", 2, 28, 4⟩]⟩

def device : Device where
  physical := 1
  descriptor := ⟨"AMD", "GPU", "1.0.0", "1.3.0", .discrete⟩
  families := ⟨0, 0, 0, 0⟩
  queues := []
  memory := ⟨1, [6]⟩
  extensions := []
  owner := ⟨0, none⟩

def acts : List Machine.Act := [.make device "quad" 128 [1, 2, 3]]

def making : Except Failure BufferRef × Machine :=
  Buffer.fromSpec device spec ((Machine.start ⟨[], ⟨0xFFFFFFFF, 1, 0⟩, []⟩ .none).performAll acts)

def later : List Machine.Act := [.writeMember 1 "color" [7, 7, 7, 7], .destroy 0]

def machine : Machine := making.2.performAll later

end Lamp

open Lamp in
theorem member_writes_lamp :
    making = (.ok 1, making.2) ∧ alignedSize spec.size = 32 ∧ .destroy 1 ∉ later ∧
      MemberWrite spec 2 "intensity" [1, 2, 3, 4] machine
        (Buffer.writeMember 1 "intensity" [1, 2, 3, 4] machine) ∧
      (Buffer.writeMember 1 "intensity" [1, 2, 3, 4] machine).2.contents? 2 =
        some ([7, 7, 7, 7] ++ List.replicate 24 0 ++ [1, 2, 3, 4]) ∧
      MemberWrite spec 2 "intensity" [1, 2, 3, 4, 5] machine
        (Buffer.writeMember 1 "intensity" [1, 2, 3, 4, 5] machine) := by
  have run : making = (.ok 1, making.2) := rfl
  have kept : .destroy 1 ∉ later := by simp [later]
  obtain ⟨h, a, held, writes⟩ := (member_writes spec).writes _ _ _ _ _ _ run
  have there : making.2.held[1]? = some ⟨.uniform spec, 2, 32, some ⟨1, 32⟩⟩ := rfl
  rw [there] at held
  obtain ⟨rfl, -, rfl⟩ : 2 = h ∧ 32 = alignedSize spec.size ∧ ⟨1, 32⟩ = a := by simpa using held
  exact ⟨run, rfl, kept, writes (by decide) later kept _ _, rfl, writes (by decide) later kept _ _⟩

end Spec
end SceneGpu
