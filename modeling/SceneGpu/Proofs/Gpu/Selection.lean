import SceneGpu.Proofs.Gpu.DeviceQueues
/-!
The selection of a device: which one is chosen, what must hold before the driver is asked for it, and
what is left of it when the selection fails.
-/
namespace SceneGpu

section choice

variable {accepts : DevicePredicate} {descriptors : List DeviceDescriptor}

def Accepted (accepts : DevicePredicate) (descriptors : List DeviceDescriptor) : Set Nat :=
  {i | ∃ d, descriptors[i]? = some d ∧ accepts i d = true}

theorem lastAccepted?_eq_none {start : Nat} (none_found : lastAccepted? accepts start descriptors = none)
    {k : Nat} {d : DeviceDescriptor} (here : descriptors[k]? = some d) :
    accepts (start + k) d = false := by
  induction descriptors generalizing start k with
  | nil => simp at here
  | cons first rest ih =>
    simp only [lastAccepted?, Option.or_eq_none_iff] at none_found
    obtain ⟨none_later, refused⟩ := none_found
    cases k with
    | zero =>
      obtain rfl := Option.some.inj here
      simpa using refused
    | succ k =>
      have later := ih none_later (k := k) (by simpa using here)
      rwa [Nat.add_right_comm] at later

theorem lastAccepted?_eq_some {start i : Nat} (found : lastAccepted? accepts start descriptors = some i) :
    ∃ k d, i = start + k ∧ descriptors[k]? = some d ∧ accepts i d = true ∧
      ∀ j e, descriptors[j]? = some e → accepts (start + j) e = true → j ≤ k := by
  induction descriptors generalizing start with
  | nil => simp [lastAccepted?] at found
  | cons first rest ih =>
    rw [lastAccepted?, Option.or_eq_some_iff] at found
    rcases found with later | ⟨none_later, here⟩
    · obtain ⟨k, d, rfl, there, accepted, last⟩ := ih later
      refine ⟨k + 1, d, by omega, by simpa using there, accepted, ?_⟩
      intro j e at_j agrees
      cases j with
      | zero => omega
      | succ j =>
        have := last j e (by simpa using at_j) (by rwa [Nat.add_right_comm])
        omega
    · obtain ⟨accepted, rfl⟩ : accepts start first = true ∧ start = i := by simpa using here
      refine ⟨0, first, rfl, rfl, accepted, ?_⟩
      intro j e at_j agrees
      cases j with
      | zero => exact Nat.le_refl 0
      | succ j =>
        have refused := lastAccepted?_eq_none none_later (k := j) (by simpa using at_j)
        rw [Nat.add_right_comm] at refused
        exact absurd agrees (by simp [← Nat.add_assoc, refused])

structure Chosen (accepts : DevicePredicate) (descriptors : List DeviceDescriptor) (i : Nat) :
    Prop where
  below : i < descriptors.length
  greatest : (Accepted accepts descriptors).Nonempty → IsGreatest (Accepted accepts descriptors) i
  first : Accepted accepts descriptors = ∅ → i = 0

theorem chooseDevice_chosen {i : Nat} (chosen : chooseDevice descriptors accepts = .ok i) :
    Chosen accepts descriptors i := by
  unfold chooseDevice at chosen
  split at chosen
  · cases chosen
  rename_i filled
  obtain rfl := Except.ok.inj chosen
  cases found : lastAccepted? accepts 0 descriptors with
  | none =>
    have refused : Accepted accepts descriptors = ∅ := by
      refine Set.eq_empty_of_forall_notMem ?_
      rintro j ⟨d, here, agrees⟩
      have := lastAccepted?_eq_none found here
      simp [agrees] at this
    refine ⟨?_, ?_, fun _ => rfl⟩
    · exact List.length_pos_iff.mpr (by simpa using filled)
    · intro some_accepted
      exact absurd refused some_accepted.ne_empty
  | some i =>
    obtain ⟨k, d, place, here, accepted, last⟩ := lastAccepted?_eq_some found
    rw [Nat.zero_add] at place
    subst place
    have mem : i ∈ Accepted accepts descriptors := ⟨d, here, accepted⟩
    refine ⟨(List.getElem?_eq_some_iff.mp here).1, ?_, ?_⟩
    · intro _
      refine ⟨mem, ?_⟩
      rintro j ⟨e, at_j, agrees⟩
      exact last j e at_j (by simpa using agrees)
    · intro refused
      simp [refused] at mem

end choice

namespace Gpu

open SceneGpu.Gpu.Action (Makes)

theorem checkName_ok {name : String} : checkName name = .ok () ↔ 0 ∉ Utf8.encodeText name := by
  unfold checkName
  by_cases nul : 0 ∈ Utf8.encodeText name
  · simp [nul]
  · simp [nul]

theorem checkQuotedNames_ok {names : List String} :
    checkQuotedNames names = .ok () ↔ ∀ name ∈ names, 0 ∉ Utf8.encodeText name := by
  induction names with
  | nil => simp [checkQuotedNames, pure, Except.pure]
  | cons name rest ih =>
    rw [List.forall_mem_cons, ← ih, ← checkName_ok]
    change (within _ (checkName name) >>= fun _ => checkQuotedNames rest) = _ ↔ _
    cases checkName name with
    | error f => simp [within, Except.mapError, bind, Except.bind]
    | ok u => simp [within, Except.mapError, bind, Except.bind]

namespace Device

def isRequest : Call → Bool
  | .createDevice _ => true
  | .failed .createDevice _ => true
  | _ => false

def aliveAfter (alive : Nat) : Call → Nat
  | .createDevice _ => alive + 1
  | .destroyDevice => alive - 1
  | _ => alive

def alive (calls : List Call) : Nat := calls.foldl aliveAfter 0

theorem getQueues_alive (slots : List (Nat × Nat)) (handles : List Handle) (n : Nat) :
    (List.zipWith queueCall slots handles).foldl aliveAfter n = n := by
  induction slots generalizing handles with
  | nil => rfl
  | cons slot rest ih =>
    cases handles with
    | nil => rfl
    | cons handle handles => exact ih handles

theorem getQueues_requests (slots : List (Nat × Nat)) (handles : List Handle) :
    (List.zipWith queueCall slots handles).filter isRequest = [] := by
  rw [List.filter_eq_nil_iff]
  intro c mem
  obtain ⟨slot, -, handle, rfl⟩ := exists_queueCall mem
  exact Bool.false_ne_true

end Device

structure Creation.Settled (info : DeviceInfo) (result : Except Failure Device) (made : List Call) :
    Prop where
  once : made.filter Device.isRequest = [] ∨ made.filter Device.isRequest = [.createDevice info] ∨
    ∃ code, made.filter Device.isRequest = [.failed .createDevice code]
  kept : ∀ device, result = .ok device → .createDevice info ∈ made
  dropped : ∀ f, result = .error f → Device.alive made = 0

theorem Creation.settled {info : DeviceInfo} {slots : List (Nat × Nat)}
    {result : Except Failure Device} {made : List Call} (creation : Creation info slots result made) :
    Settled info result made := by
  cases creation with
  | unnamed f =>
    refine ⟨.inl rfl, ?_, fun _ _ => rfl⟩
    intro device impossible
    cases impossible
  | refused f code =>
    refine ⟨.inr (.inr ⟨code, rfl⟩), ?_, fun _ _ => rfl⟩
    intro device impossible
    cases impossible
  | kept device each =>
    refine ⟨.inr (.inl ?_), fun _ _ => List.mem_cons_self, ?_⟩
    · rw [List.filter_cons_of_pos rfl, Device.getQueues_requests]
    · intro f impossible
      cases impossible
  | dropped f handles each =>
    refine ⟨.inr (.inl ?_), ?_, ?_⟩
    · rw [List.cons_append, List.filter_cons_of_pos rfl, List.filter_append,
        Device.getQueues_requests]
      rfl
    · intro device impossible
      cases impossible
    · intro _ _
      simp [Device.alive, Device.aliveAfter, Device.getQueues_alive]

theorem Creation.Settled.few {info : DeviceInfo} {result : Except Failure Device}
    {made : List Call} (settled : Creation.Settled info result made) :
    (made.filter Device.isRequest).length ≤ 1 := by
  rcases settled.once with none_made | granted | ⟨code, refused⟩
  · simp [none_made]
  · simp [granted]
  · simp [refused]

theorem Creation.Settled.request {info : DeviceInfo} {result : Except Failure Device}
    {made : List Call} (settled : Creation.Settled info result made) {c : Call} (mem : c ∈ made)
    (request : Device.isRequest c = true) :
    c = .createDevice info ∨ ∃ code, c = .failed .createDevice code := by
  have among : c ∈ made.filter Device.isRequest := List.mem_filter.mpr ⟨mem, request⟩
  rcases settled.once with none_made | granted | ⟨code, refused⟩
  · simp [none_made] at among
  · exact .inl (by simpa [granted] using among)
  · exact .inr ⟨code, by simpa [refused] using among⟩

/-- A device that may be asked for: the chosen one of those listed, on which the workarounds have
passed, with names that the driver can be given. -/
structure Candidate (r : DeviceRequest) (table : WorkaroundTable) (disabled : Bool) (m : Machine)
    (i : Nat) (physical : Handle) (p : PhysicalDevice) : Prop where
  listed : ∃ listed, (Instance.physicalDevices m).1 = .ok listed ∧
    Chosen r.accepts (listed.map fun d => .ofProperties d.2.properties) i ∧
      listed[i]? = some (physical, p)
  passed : ∃ fired, (table.apply disabled (.ofProperties p.properties)).result = .ok fired
  named : ∀ name ∈ r.extensions ++ r.layers, 0 ∉ Utf8.encodeText name

namespace Device

theorem physicalDevices_makes :
    Makes Instance.physicalDevices (Action.Attempted .enumerateDevices) := by
  have once := Action.attempt_makes .enumerateDevices
  have twice := once.attempted_bind .refused fun _ => once
  refine (twice.attempted_mapFailure _).attempted_bind .refused ?_
  exact fun _ m => ⟨[], (List.append_nil m.calls).symm, .passed _⟩

theorem create_cases (owner : Instance) (physical : Handle) (p : PhysicalDevice)
    (d : DeviceDescriptor) (r : DeviceRequest) (m : Machine) :
    (∃ f m', create owner physical p d r m = (.error f, m') ∧ m'.calls = m.calls) ∨
      (∀ name ∈ r.extensions ++ r.layers, 0 ∉ Utf8.encodeText name) ∧ ∃ m',
        create owner physical p d r m = complete owner physical p d r m' ∧
          m'.calls = m.calls ∧ m.records <+: m'.records := by
  unfold create
  cases extensions : checkQuotedNames r.extensions with
  | error f => exact .inl ⟨_, _, rfl, rfl⟩
  | ok u =>
    cases layers : checkQuotedNames r.layers with
    | error f => exact .inl ⟨_, _, rfl, rfl⟩
    | ok u =>
      refine .inr ⟨?_, _, rfl, rfl, ?_⟩
      · intro name mem
        rcases List.mem_append.mp mem with mem | mem
        · exact checkQuotedNames_ok.mp extensions name mem
        · exact checkQuotedNames_ok.mp layers name mem
      · simp only [List.append_assoc]
        exact List.prefix_append _ _

/-- A selection fails before the driver is asked for a device, or it goes on to ask for the
candidate once the records of the workarounds are written. -/
inductive Outcome (owner : Instance) (r : DeviceRequest) (table : WorkaroundTable) (disabled : Bool)
    (m : Machine) : Prop
  | stopped (f : Failure) (m' : Machine) (ended : select owner r table disabled m = (.error f, m'))
      (quiet : m'.calls = m.calls ∨ ∃ code, m'.calls = m.calls ++ [.failed .enumerateDevices code])
      (cause : (Instance.physicalDevices m).1 = .ok [] → f = .ofCause .noDevices)
  | asked (i : Nat) (physical : Handle) (p : PhysicalDevice) (m' : Machine)
      (candidate : Candidate r table disabled m i physical p)
      (quiet : m'.calls = m.calls)
      (passed : ∃ before, before ++ (table.apply disabled (.ofProperties p.properties)).records <+:
        m'.records)
      (went : select owner r table disabled m =
        complete owner physical p (.ofProperties p.properties) r m')

theorem select_outcome (owner : Instance) (r : DeviceRequest) (table : WorkaroundTable)
    (disabled : Bool) (m : Machine) : Outcome owner r table disabled m := by
  obtain ⟨made, grown, listing⟩ := physicalDevices_makes m
  cases enumerated : Instance.physicalDevices m with
  | mk result m₁ =>
  rw [enumerated] at grown listing
  cases listing with
  | refused f code =>
    refine .stopped f m₁ (Effect.bind_of_error enumerated) (.inr ⟨code, grown⟩) ?_
    rw [enumerated]
    intro impossible
    cases impossible
  | passed listed =>
  have quiet : m₁.calls = m.calls := grown.trans (List.append_nil _)
  -- From here on only the machine's records change, up to the request.
  have went : select owner r table disabled m = _ := Effect.bind_of_ok enumerated
  cases choice : chooseDevice (listed.map fun d => .ofProperties d.2.properties) r.accepts with
  | error f =>
    refine .stopped f m₁ (by rw [went, choice]; rfl) (.inl quiet) ?_
    rw [enumerated]
    rintro ⟨⟩
    exact (Except.error.inj choice).symm
  | ok i =>
  have chosen := chooseDevice_chosen choice
  obtain ⟨⟨physical, p⟩, here⟩ : ∃ d, listed[i]? = some d := by
    have below := chosen.below
    rw [List.length_map] at below
    exact ⟨_, List.getElem?_eq_getElem below⟩
  have described : (listed.map fun d => DeviceDescriptor.ofProperties d.2.properties)[i]? =
      some (.ofProperties p.properties) := by
    simp [here]
  simp only [choice, bind, Effect.andThen, Effect.ofResult, here, described, Action.say,
    Effect.change, Action.ofLogged] at went
  cases pass : (table.apply disabled (.ofProperties p.properties)).result with
  | error f =>
    rw [pass] at went
    refine .stopped f _ went (.inl quiet) ?_
    rw [enumerated]
    rintro ⟨⟩
    simp at here
  | ok fired =>
  rw [pass] at went
  dsimp only at went
  rcases create_cases owner physical p (.ofProperties p.properties) r _ with
    ⟨f, m₂, failed, still⟩ | ⟨named, m₂, passes, still, wrote⟩
  · refine .stopped f m₂ (went.trans failed) (.inl (still.trans quiet)) ?_
    rw [enumerated]
    rintro ⟨⟩
    simp at here
  · refine .asked i physical p m₂ ⟨⟨listed, ?_, chosen, here⟩, ⟨fired, pass⟩, named⟩ ?_ ?_ ?_
    · rw [enumerated]
    · exact still.trans quiet
    · exact ⟨_, wrote⟩
    · exact went.trans passes

theorem complete_ok {owner : Instance} {physical : Handle} {p : PhysicalDevice}
    {d : DeviceDescriptor} {r : DeviceRequest} {m m' : Machine} {device : Device}
    (run : complete owner physical p d r m = (.ok device, m')) :
    device.physical = physical ∧ device.descriptor = d ∧
      device.families = RoleFamilies.resolve p.families := by
  simp only [complete, Effect.bind_ok, Effect.pure_ok] at run
  obtain ⟨_, _, _, queues, _, _, _, _, _, _, _, _, rfl, _⟩ := run
  exact ⟨rfl, rfl, rfl⟩

structure Selected (owner : Instance) (r : DeviceRequest) (table : WorkaroundTable)
    (disabled : Bool) (m : Machine) (result : Except Failure Device) (made : List Call) : Prop where
  once : (made.filter isRequest).length ≤ 1
  asked : ∀ c ∈ made, isRequest c = true → ∃ i physical p m',
    Candidate r table disabled m i physical p ∧ m'.calls = m.calls ∧
      (∃ before, before ++ (table.apply disabled (.ofProperties p.properties)).records <+:
        m'.records) ∧
      select owner r table disabled m =
        complete owner physical p (.ofProperties p.properties) r m' ∧
      (c = .createDevice
          ⟨physical, (RoleFamilies.resolve p.families).groups, r.extensions, r.layers⟩ ∨
        ∃ code, c = .failed .createDevice code)
  empty : (Instance.physicalDevices m).1 = .ok [] → result = .error (.ofCause .noDevices)
  returned : ∀ device, result = .ok device → ∃ i physical p,
    Candidate r table disabled m i physical p ∧
      .createDevice ⟨physical, (RoleFamilies.resolve p.families).groups, r.extensions, r.layers⟩ ∈
        made ∧
      device.physical = physical ∧ device.descriptor = .ofProperties p.properties ∧
      device.families = RoleFamilies.resolve p.families
  dropped : ∀ f, result = .error f → alive made = 0

theorem select_selected (owner : Instance) (r : DeviceRequest) (table : WorkaroundTable)
    (disabled : Bool) (m : Machine) :
    ∃ made, (select owner r table disabled m).2.calls = m.calls ++ made ∧
      Selected owner r table disabled m (select owner r table disabled m).1 made := by
  cases select_outcome owner r table disabled m with
  | stopped f m' ended quiet cause =>
    obtain ⟨made, grown, plain, none_alive⟩ : ∃ made, m'.calls = m.calls ++ made ∧
        made.filter isRequest = [] ∧ alive made = 0 := by
      rcases quiet with still | ⟨code, still⟩
      · exact ⟨[], by rw [still, List.append_nil], rfl, rfl⟩
      · exact ⟨_, still, rfl, rfl⟩
    rw [ended]
    refine ⟨made, grown, ?_⟩
    constructor
    case once => simp [plain]
    case asked =>
      intro c mem request
      have among : c ∈ made.filter isRequest := List.mem_filter.mpr ⟨mem, request⟩
      simp [plain] at among
    case empty =>
      intro none_listed
      rw [cause none_listed]
    case returned =>
      intro device impossible
      cases impossible
    case dropped => exact fun _ _ => none_alive
  | asked i physical p m' candidate quiet passed went =>
    obtain ⟨made, grown, creation⟩ :=
      complete_makes owner physical p (.ofProperties p.properties) r m'
    have settled := creation.settled
    rw [went]
    refine ⟨made, by rw [grown, quiet], ?_⟩
    constructor
    case once => exact settled.few
    case asked =>
      intro c mem request
      exact ⟨i, physical, p, m', candidate, quiet, passed, went, settled.request mem request⟩
    case empty =>
      intro none_listed
      obtain ⟨listed, enumerated, -, here⟩ := candidate.listed
      rw [none_listed] at enumerated
      cases enumerated
      simp at here
    case returned =>
      intro device result
      have fields := complete_ok (Prod.ext result rfl)
      exact ⟨i, physical, p, candidate, settled.kept device result, fields⟩
    case dropped => exact settled.dropped

end Device
end Gpu
end SceneGpu
