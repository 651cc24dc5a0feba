import SceneGpu.Gpu.Device
import SceneGpu.Proofs.Device.QueueRequests
import SceneGpu.Proofs.Gpu.Trace
/-!
The queues of a new device: what its creation asks of the driver, and what it then takes.
-/
namespace SceneGpu.Gpu

open SceneGpu.Gpu.Action (Makes)

def queueCall (slot : Nat × Nat) (handle : Handle) : Call := .getQueue slot.1 slot.2 handle

/-- The creation of a device: a name is not well formed and nothing is called, the driver refuses,
or it is asked for the queues and then for a handle for each slot, and the device is kept or not. -/
inductive Creation (info : DeviceInfo) (slots : List (Nat × Nat)) :
    Except Failure Device → List Call → Prop
  | unnamed (f : Failure) : Creation info slots (.error f) []
  | refused (f : Failure) (code : ResultCode) :
      Creation info slots (.error f) [.failed .createDevice code]
  | kept (device : Device) (each : device.queues.length = slots.length) :
      Creation info slots (.ok device)
        (.createDevice info :: List.zipWith queueCall slots device.queues)
  | dropped (f : Failure) (handles : List Handle) (each : handles.length = slots.length) :
      Creation info slots (.error f)
        (.createDevice info :: List.zipWith queueCall slots handles ++ [.destroyDevice])

namespace Device

theorem getQueues_makes (slots : List (Nat × Nat)) : Makes (getQueues slots) fun r made =>
    ∃ handles, r = .ok handles ∧ handles.length = slots.length ∧
      made = List.zipWith queueCall slots handles := by
  induction slots with
  | nil => exact .pure ⟨[], rfl, rfl, rfl⟩
  | cons slot rest ih =>
    have one : Makes (getQueue slot) fun r made =>
        ∃ handle, r = .ok handle ∧ made = [queueCall slot handle] :=
      fun m => ⟨[queueCall slot m.nextHandle], rfl, m.nextHandle, rfl, rfl⟩
    refine one.bind ?_ ?_
    · rintro e made ⟨handle, impossible, _⟩
      cases impossible
    rintro handle made ⟨_, ⟨⟩, rfl⟩
    refine ih.bind ?_ ?_
    · rintro e made ⟨handles, impossible, _⟩
      cases impossible
    rintro handles made ⟨_, ⟨⟩, each, rfl⟩
    refine .pure ⟨handle :: handles, rfl, ?_, ?_⟩
    · simp [each]
    · simp

theorem createBare_makes (info : DeviceInfo) : Makes (createBare info) fun r made =>
    (r = .ok () ∧ made = [.createDevice info]) ∨
      ∃ f code, r = .error f ∧ made = [.failed .createDevice code] := by
  refine ((Action.attempt_makes .createDevice).attempted_mapFailure _).attempted_bind ?_ ?_
  · exact fun e code => .inr ⟨e, code, rfl, rfl⟩
  · exact fun _ => .called (.inl ⟨rfl, rfl⟩)

theorem createAllocator_makes (physical : Handle) :
    Makes ((createAllocator physical).orElseDo (Action.called .destroyDevice)) fun r made =>
      (r = .ok () ∧ made = []) ∨ (r = .error allocatorFailure ∧ made = [.destroyDevice]) := by
  intro m
  by_cases null : physical = 0
  · rw [createAllocator, if_pos null]
    exact ⟨[.destroyDevice], rfl, .inr ⟨rfl, rfl⟩⟩
  · rw [createAllocator, if_neg null]
    exact ⟨[], (List.append_nil m.calls).symm, .inl ⟨rfl, rfl⟩⟩

def complete (owner : Instance) (physical : Handle) (p : PhysicalDevice) (d : DeviceDescriptor)
    (r : DeviceRequest) : Action Device := do
  let families := RoleFamilies.resolve p.families
  createBare ⟨physical, families.groups, r.extensions, r.layers⟩
  let queues ← getQueues families.slots
  (createAllocator physical).orElseDo (Action.called .destroyDevice)
  Action.say [remark .debug ("Created logical Vulkan device on " ++ d.display)]
  return ⟨physical, d, families, queues, .ofFlags p.memory, r.extensions, owner⟩

section creation

variable (owner : Instance) (physical : Handle) (p : PhysicalDevice) (d : DeviceDescriptor)
variable (r : DeviceRequest)

theorem complete_makes : Makes (complete owner physical p d r) (Creation
    ⟨physical, (RoleFamilies.resolve p.families).groups, r.extensions, r.layers⟩
    (RoleFamilies.resolve p.families).slots) := by
  refine (createBare_makes _).bind ?_ ?_
  · rintro f made (⟨impossible, _⟩ | ⟨_, code, ⟨⟩, rfl⟩)
    · cases impossible
    · exact .refused f code
  rintro _ made (⟨_, rfl⟩ | ⟨f, code, impossible, _⟩)
  swap
  · cases impossible
  refine (getQueues_makes _).bind ?_ ?_
  · rintro e made ⟨handles, impossible, _⟩
    cases impossible
  rintro handles made ⟨_, ⟨⟩, each, rfl⟩
  refine (createAllocator_makes physical).bind ?_ ?_
  · rintro e made (⟨impossible, _⟩ | ⟨⟨⟩, rfl⟩)
    · cases impossible
    · exact .dropped _ handles each
  rintro _ made (⟨_, rfl⟩ | ⟨impossible, _⟩)
  swap
  · cases impossible
  refine .say (.pure ?_)
  simp only [List.append_nil]
  exact Creation.kept ⟨physical, d, _, handles, _, r.extensions, owner⟩ each

theorem create_makes : Makes (create owner physical p d r) (Creation
    ⟨physical, (RoleFamilies.resolve p.families).groups, r.extensions, r.layers⟩
    (RoleFamilies.resolve p.families).slots) := by
  refine .say (.say (.ofResult .unnamed fun _ => .say (.ofResult .unnamed fun _ => .say ?_)))
  exact complete_makes owner physical p d r

end creation

end Device

def TakesRequested (made : List Call) : Prop :=
  ∀ earlier family index handle later, made = earlier ++ .getQueue family index handle :: later →
    ∃ info g, .createDevice info ∈ earlier ∧ g ∈ info.groups ∧ g.family = family ∧ index < g.count

theorem exists_queueCall {slots : List (Nat × Nat)} {handles : List Handle} {c : Call}
    (mem : c ∈ List.zipWith queueCall slots handles) :
    ∃ slot ∈ slots, ∃ handle, c = queueCall slot handle := by
  rw [← List.map_uncurry_zip_eq_zipWith] at mem
  obtain ⟨pair, both, rfl⟩ := List.mem_map.mp mem
  exact ⟨pair.1, (List.of_mem_zip both).1, pair.2, rfl⟩

theorem slot_of_queueCall {slots : List (Nat × Nat)} {handles : List Handle} {family index : Nat}
    {handle : Handle}
    (mem : .getQueue family index handle ∈ List.zipWith queueCall slots handles) :
    (family, index) ∈ slots := by
  obtain ⟨slot, there, taken, same⟩ := exists_queueCall mem
  cases same
  exact there

theorem takesRequested_of_slots {info : DeviceInfo} {slots : List (Nat × Nat)}
    (asked : ∀ family index, (family, index) ∈ slots →
      ∃ g ∈ info.groups, g.family = family ∧ index < g.count)
    {handles : List Handle} {ending : List Call}
    (plain : ∀ family index handle, .getQueue family index handle ∉ ending) :
    TakesRequested (.createDevice info :: (List.zipWith queueCall slots handles ++ ending)) := by
  intro earlier family index handle later eq
  cases earlier with
  | nil => cases (List.cons.inj eq).1
  | cons c front =>
    obtain ⟨rfl, rest⟩ := List.cons.inj eq
    have mem : .getQueue family index handle ∈ List.zipWith queueCall slots handles ++ ending := by
      rw [rest]
      exact List.mem_append_right _ List.mem_cons_self
    rcases List.mem_append.mp mem with mem | mem
    · obtain ⟨g, there, same, below⟩ := asked family index (slot_of_queueCall mem)
      exact ⟨info, g, List.mem_cons_self, there, same, below⟩
    · exact absurd mem (plain family index handle)

theorem Creation.takesRequested {info : DeviceInfo} {slots : List (Nat × Nat)}
    (asked : ∀ family index, (family, index) ∈ slots →
      ∃ g ∈ info.groups, g.family = family ∧ index < g.count)
    {result : Except Failure Device} {made : List Call} (creation : Creation info slots result made) :
    TakesRequested made := by
  cases creation with
  | unnamed f =>
    intro earlier family index handle later eq
    simp at eq
  | refused f code =>
    intro earlier family index handle later eq
    have mem : .getQueue family index handle ∈ [Call.failed .createDevice code] := by
      rw [eq]
      exact List.mem_append_right _ List.mem_cons_self
    simp at mem
  | kept device each =>
    rw [← List.append_nil (List.zipWith _ _ _)]
    exact takesRequested_of_slots asked (by simp)
  | dropped f handles each =>
    rw [List.cons_append]
    exact takesRequested_of_slots asked (by simp)

structure QueuesAgree (families : QueueFamilies) : Prop where
  greatest : ∀ role, (Serving role families).Nonempty →
    IsGreatest (Serving role families) ((RoleFamilies.resolve families).of role)
  unserved : ∀ role, Serving role families = ∅ → (RoleFamilies.resolve families).of role = 0
  inRange : families ≠ [] → ∀ role, (RoleFamilies.resolve families).of role < families.length
  present : (RoleFamilies.resolve families).present = 0
  grouping : Grouping (RoleFamilies.resolve families).list (RoleFamilies.resolve families).groups
  three : ((RoleFamilies.resolve families).groups.map (·.count)).sum = 3
  named : (RoleFamilies.resolve families).slots.map (·.1) =
    QueueRole.all.map (RoleFamilies.resolve families).of
  distinct : (RoleFamilies.resolve families).slots.Nodup
  covered : ∀ family index, (family, index) ∈ (RoleFamilies.resolve families).slots ↔
    ∃ g ∈ (RoleFamilies.resolve families).groups, g.family = family ∧ index < g.count
  taken : ∀ owner physical p d r, p.families = families →
    Makes (Device.create owner physical p d r) fun _ made => TakesRequested made

theorem queues_agree (families : QueueFamilies) : QueuesAgree families := by
  have grouping := (RoleFamilies.resolve families).groups_grouping
  refine ⟨fun _ => RoleFamilies.resolve_served, fun _ => RoleFamilies.resolve_unserved,
    RoleFamilies.resolve_lt, rfl, grouping, grouping.total, slotsFrom_families [] _,
    nodup_slotsFrom [] _, fun _ _ => grouping.mem_slots, ?_⟩
  rintro owner physical p d r rfl m
  obtain ⟨made, calls, creation⟩ := Device.create_makes owner physical p d r m
  exact ⟨made, calls, creation.takesRequested fun _ _ => grouping.mem_slots.mp⟩

end SceneGpu.Gpu
