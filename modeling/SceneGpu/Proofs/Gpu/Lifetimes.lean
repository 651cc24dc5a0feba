import Mathlib.Data.List.Nodup
import SceneGpu.Proofs.Collection.Lists
import SceneGpu.Proofs.Gpu.Selection
/-!
The lives of the driver's objects, read off the calls that were made. Calls are balanced if each
object that was created has been destroyed, once, and after its children.
-/
namespace SceneGpu.Gpu

open SceneGpu.Gpu.Action (Makes)

/-- The objects of the driver. The driver's instance and the device need no handle, since there is
one of each at a time. -/
inductive Object where
  | driver
  | messenger (handle : Handle)
  | device
  | commandPool (handle : Handle)
  | buffer (handle : Handle)
  | shaderModule (handle : Handle)
  | descriptorPool (handle : Handle)
  | setLayout (handle : Handle)
  | pipelineLayout (handle : Handle)
  | pipeline (handle : Handle)
deriving DecidableEq, Repr

def Object.parent? : Object → Option Object
  | .driver => none
  | .messenger _ => some .driver
  | .device => some .driver
  | _ => some .device

def Object.OfDevice (x : Object) : Prop := x = .device ∨ x.parent? = some .device

theorem Object.not_ofDevice_driver : ¬Object.driver.OfDevice := by
  simp [OfDevice, parent?]

theorem Object.not_ofDevice_messenger (h : Handle) : ¬(Object.messenger h).OfDevice := by
  simp [OfDevice, parent?]

namespace Call

def creates? : Call → Option Object
  | .createInstance _ => some .driver
  | .createMessenger h => some (.messenger h)
  | .createDevice _ => some .device
  | .createCommandPool _ h => some (.commandPool h)
  | .createBuffer _ _ h => some (.buffer h)
  | .createShaderModule _ h => some (.shaderModule h)
  | .createDescriptorPool _ _ h => some (.descriptorPool h)
  | .createSetLayout _ h => some (.setLayout h)
  | .createPipelineLayout _ h => some (.pipelineLayout h)
  | .createPipeline _ h => some (.pipeline h)
  | _ => none

def destroys? : Call → Option Object
  | .destroyInstance => some .driver
  | .destroyMessenger h => some (.messenger h)
  | .destroyDevice => some .device
  | .destroyCommandPool h => some (.commandPool h)
  | .destroyBuffer h => some (.buffer h)
  | .destroyShaderModule h => some (.shaderModule h)
  | .destroyPipelineLayout h => some (.pipelineLayout h)
  | .destroyPipeline h => some (.pipeline h)
  | _ => none

def Quiet (c : Call) : Prop := c.creates? = none ∧ c.destroys? = none

theorem destroys?_of_creates? {c : Call} {x : Object} (creates : c.creates? = some x) :
    c.destroys? = none := by
  cases c <;> first | rfl | cases creates

theorem creates?_of_destroys? {c : Call} {x : Object} (destroys : c.destroys? = some x) :
    c.creates? = none := by
  cases c <;> first | rfl | cases destroys

end Call

theorem Object.parent?_ne (x : Object) : x.parent? ≠ some x := by
  cases x <;> simp [parent?]

def created (calls : List Call) : List Object := calls.filterMap Call.creates?

def destroyed (calls : List Call) : List Object := calls.filterMap Call.destroys?

@[simp]
theorem created_nil : created [] = [] := rfl

@[simp]
theorem destroyed_nil : destroyed [] = [] := rfl

theorem created_cons (c : Call) (calls : List Call) :
    created (c :: calls) = c.creates?.toList ++ created calls := by
  unfold created
  cases creates : c.creates? <;> simp [creates]

theorem destroyed_cons (c : Call) (calls : List Call) :
    destroyed (c :: calls) = c.destroys?.toList ++ destroyed calls := by
  unfold destroyed
  cases destroys : c.destroys? <;> simp [destroys]

theorem created_append (a b : List Call) : created (a ++ b) = created a ++ created b :=
  List.filterMap_append

theorem destroyed_append (a b : List Call) : destroyed (a ++ b) = destroyed a ++ destroyed b :=
  List.filterMap_append

theorem created_of_quiet {calls : List Call} (quiet : ∀ c ∈ calls, c.Quiet) : created calls = [] :=
  List.filterMap_eq_nil_iff.mpr fun c mem => (quiet c mem).1

/-- What is destroyed has been created before, and its children have been destroyed before. -/
def Nested (calls : List Call) : Prop :=
  ∀ before c after x, calls = before ++ c :: after → c.destroys? = some x →
    x ∈ created before ∧ ∀ y ∈ created before, y.parent? = some x → y ∈ destroyed before

theorem created_cons_of_creates {c : Call} {x : Object} (creates : c.creates? = some x)
    (calls : List Call) : created (c :: calls) = x :: created calls := by
  simp [created_cons, creates]

theorem destroyed_cons_of_creates {c : Call} {x : Object} (creates : c.creates? = some x)
    (calls : List Call) : destroyed (c :: calls) = destroyed calls := by
  simp [destroyed_cons, Call.destroys?_of_creates? creates]

namespace Nested

theorem cons {c : Call} {x : Object} {calls : List Call} (nested : Nested calls)
    (creates : c.creates? = some x) (alien : ∀ y ∈ created calls, x.parent? ≠ some y) :
    Nested (c :: calls) := by
  intro before d after z eq ends
  cases before with
  | nil =>
    obtain ⟨rfl, -⟩ := List.cons.inj eq
    simp [Call.destroys?_of_creates? creates] at ends
  | cons first before =>
    obtain ⟨rfl, rfl⟩ := List.cons.inj eq
    obtain ⟨there, children⟩ := nested before d after z rfl ends
    rw [created_cons_of_creates creates, destroyed_cons_of_creates creates]
    refine ⟨List.mem_cons_of_mem x there, ?_⟩
    intro y mem child
    rcases List.mem_cons.mp mem with rfl | mem
    · have inside : z ∈ created (before ++ d :: after) := by
        rw [created_append]
        exact List.mem_append_left _ there
      exact absurd child (alien z inside)
    · exact children y mem child

theorem concat {calls : List Call} {c : Call} (nested : Nested calls)
    (last : ∀ x, c.destroys? = some x →
      x ∈ created calls ∧ ∀ y ∈ created calls, y.parent? = some x → y ∈ destroyed calls) :
    Nested (calls ++ [c]) := by
  intro before d after z eq ends
  rcases concat_eq_split eq with ⟨rfl, rfl, rfl⟩ | ⟨front, rfl, rfl⟩
  · exact last z ends
  · exact nested before d front z rfl ends

end Nested

structure Balanced (calls : List Call) : Prop where
  once : (created calls).Nodup
  all : (destroyed calls).Perm (created calls)
  nested : Nested calls

namespace Balanced

theorem quiet {calls : List Call} (quiet : ∀ c ∈ calls, c.Quiet) : Balanced calls := by
  have none_created := created_of_quiet quiet
  have none_destroyed : destroyed calls = [] :=
    List.filterMap_eq_nil_iff.mpr fun c mem => (quiet c mem).2
  refine ⟨?_, ?_, ?_⟩
  · rw [none_created]
    exact List.nodup_nil
  · rw [none_created, none_destroyed]
  · rintro before c after x rfl destroys
    have still := (quiet c (by simp)).2
    simp [destroys] at still

theorem append {a b : List Call} (first : Balanced a) (second : Balanced b)
    (apart : (created a).Disjoint (created b)) : Balanced (a ++ b) := by
  refine ⟨?_, ?_, ?_⟩
  · rw [created_append]
    exact first.once.append second.once apart
  · rw [created_append, destroyed_append]
    exact first.all.append second.all
  · intro before c after x eq destroys
    have behind : ∀ front, before = a ++ front → b = front ++ c :: after →
        x ∈ created before ∧ ∀ y ∈ created before, y.parent? = some x → y ∈ destroyed before := by
      rintro front rfl rfl
      obtain ⟨there, children⟩ := second.nested front c after x rfl destroys
      rw [created_append, destroyed_append]
      refine ⟨List.mem_append_right _ there, ?_⟩
      intro y mem child
      rcases List.mem_append.mp mem with old | new
      · -- whatever the first part has created, it has destroyed itself
        exact List.mem_append_left _ (first.all.mem_iff.mpr old)
      · exact List.mem_append_right _ (children y new child)
    rcases List.append_eq_append_iff.mp eq with ⟨front, split, rest⟩ | ⟨rest, split, tail⟩
    · exact behind front split rest
    · cases rest with
      | nil => exact behind [] (by simpa using split.symm) (by simpa using tail.symm)
      | cons d rest =>
        obtain ⟨rfl, rfl⟩ := List.cons.inj tail
        exact first.nested before c rest x split destroys

theorem after_quiet {front calls : List Call} (balanced : Balanced calls)
    (quiet : ∀ c ∈ front, c.Quiet) : Balanced (front ++ calls) := by
  refine (Balanced.quiet quiet).append balanced ?_
  rw [created_of_quiet quiet]
  exact List.disjoint_nil_left _

theorem before_quiet {calls back : List Call} (balanced : Balanced calls)
    (quiet : ∀ c ∈ back, c.Quiet) : Balanced (calls ++ back) := by
  refine balanced.append (Balanced.quiet quiet) ?_
  rw [created_of_quiet quiet]
  exact List.disjoint_nil_right _

theorem bracket {c d : Call} {x : Object} {inner : List Call} (balanced : Balanced inner)
    (creates : c.creates? = some x) (destroys : d.destroys? = some x)
    (new : x ∉ created inner) (alien : ∀ y ∈ created inner, x.parent? ≠ some y) :
    Balanced (c :: (inner ++ [d])) := by
  have closes : created [d] = [] := by simp [created_cons, Call.creates?_of_destroys? destroys]
  have last : destroyed [d] = [x] := by simp [destroyed_cons, destroys]
  refine ⟨?_, ?_, ?_⟩
  · rw [created_cons_of_creates creates, created_append, closes, List.append_nil]
    exact List.nodup_cons.mpr ⟨new, balanced.once⟩
  · rw [created_cons_of_creates creates, destroyed_cons_of_creates creates, created_append,
      destroyed_append, closes, List.append_nil, last]
    exact (List.perm_append_singleton x _).trans (balanced.all.cons x)
  · refine (balanced.nested.cons creates alien).concat ?_
    intro z ends
    obtain rfl : x = z := Option.some.inj (destroys.symm.trans ends)
    rw [created_cons_of_creates creates, destroyed_cons_of_creates creates]
    refine ⟨List.mem_cons_self, ?_⟩
    intro y mem child
    rcases List.mem_cons.mp mem with rfl | mem
    · exact absurd child y.parent?_ne
    · exact balanced.all.mem_iff.mpr mem

end Balanced

theorem Call.quiet_failed (f : Function) (code : ResultCode) : ∀ c ∈ [Call.failed f code], c.Quiet := by
  intro c mem
  obtain rfl := List.mem_singleton.mp mem
  exact ⟨rfl, rfl⟩

namespace Instance

/-- The creation of the driver's instance: it fails and nothing of it is left, or it is there, with
or without a messenger. -/
inductive Creation : Except Failure Instance → List Call → Prop
  | failed (f : Failure) (made : List Call) (balanced : Balanced made) : Creation (.error f) made
  | silent (i : Instance) (info : InstanceInfo) (alone : i.messenger = none) :
      Creation (.ok i) [.createInstance info]
  | heard (i : Instance) (info : InstanceInfo) (h : Handle) (callbacks : List Call)
      (attached : i.messenger = some h) (quiet : ∀ c ∈ callbacks, c.Quiet) :
      Creation (.ok i) (.createInstance info :: .createMessenger h :: callbacks)

theorem createBare_makes (application : String) (layers : List String) (headless : Bool) :
    Makes (createBare application layers headless) fun r made =>
      (r = .ok () ∧ ∃ info, made = [.createInstance info]) ∨
        ∃ e, r = .error e ∧ ∀ c ∈ made, c.Quiet := by
  refine .ofResult ?_ fun _ => .ofResult ?_ fun _ => ?_
  · exact fun e => .inr ⟨e, rfl, by simp⟩
  · exact fun e => .inr ⟨e, rfl, by simp⟩
  · refine ((Action.attempt_makes .createInstance).attempted_mapFailure _).attempted_bind ?_ ?_
    · exact fun e code => .inr ⟨e, rfl, Call.quiet_failed _ code⟩
    · exact fun _ => .called (.inl ⟨rfl, _, rfl⟩)

theorem receiveAll_makes (messages : List Message) : Makes (receiveAll messages) fun r made =>
    r = .ok () ∧ ∀ c ∈ made, c.Quiet := by
  induction messages with
  | nil => exact .pure ⟨rfl, by simp⟩
  | cons msg rest ih =>
    have one : Makes (receive msg) fun r made => r = .ok () ∧ made = [.callback 0] :=
      .say (.called ⟨rfl, rfl⟩)
    refine one.bind ?_ ?_
    · rintro e made ⟨impossible, _⟩
      cases impossible
    rintro _ made ⟨_, rfl⟩
    refine ih.mono ?_
    rintro r more ⟨done, quiet⟩
    refine ⟨done, ?_⟩
    intro c mem
    rcases List.mem_cons.mp mem with rfl | mem
    · exact ⟨rfl, rfl⟩
    · exact quiet c mem

theorem createMessenger_makes : Makes createMessenger fun r made =>
    (∃ h callbacks, r = .ok h ∧ made = .createMessenger h :: callbacks ∧ ∀ c ∈ callbacks, c.Quiet) ∨
      ∃ e code, r = .error e ∧ made = [.failed .createMessenger code] := by
  refine ((Action.create_makes .createMessenger .createMessenger).created_mapFailure _).bind ?_ ?_
  · rintro e made ⟨⟩
    exact .inr ⟨e, _, rfl, rfl⟩
  rintro h made ⟨⟩
  refine .get fun m => (receiveAll_makes m.hardware.messages).bind ?_ ?_
  · rintro e more ⟨impossible, _⟩
    cases impossible
  · rintro _ more ⟨_, quiet⟩
    exact .pure (.inl ⟨h, more, rfl, by simp, quiet⟩)

theorem attach_makes : Makes (do
    let h ← createMessenger.orElseDo (Action.called .destroyInstance)
    return some h) fun r made =>
      (∃ h callbacks, r = .ok (some h) ∧ made = .createMessenger h :: callbacks ∧
        ∀ c ∈ callbacks, c.Quiet) ∨
      ∃ e code, r = .error e ∧ made = [.failed .createMessenger code, .destroyInstance] := by
  have destroys : Makes (Action.called .destroyInstance) fun _ made => made = [.destroyInstance] :=
    .called rfl
  have kept : Makes (createMessenger.orElseDo (Action.called .destroyInstance)) fun r made =>
      (∃ h callbacks, r = .ok h ∧ made = .createMessenger h :: callbacks ∧
        ∀ c ∈ callbacks, c.Quiet) ∨
      ∃ e code, r = .error e ∧ made = [.failed .createMessenger code, .destroyInstance] := by
    refine createMessenger_makes.orElseDo destroys ?_ ?_
    · rintro h made (new | ⟨e, code, impossible, _⟩)
      · exact .inl new
      · cases impossible
    · rintro e made r more (⟨h, callbacks, impossible, _⟩ | ⟨_, code, _, rfl⟩) rfl
      · cases impossible
      · exact .inr ⟨e, code, rfl, rfl⟩
  refine kept.bind ?_ ?_
  · rintro e made (⟨h, callbacks, impossible, _⟩ | ⟨_, code, _, rfl⟩)
    · cases impossible
    · exact .inr ⟨e, code, rfl, rfl⟩
  · rintro h made (⟨_, callbacks, ⟨⟩, rfl, quiet⟩ | ⟨e, code, impossible, _⟩)
    · exact .pure (.inl ⟨h, callbacks, rfl, by simp, quiet⟩)
    · cases impossible

theorem create_makes (application : String) (s : DeviceSettings) :
    Makes (create application s) Creation := by
  refine .say ((createBare_makes application _ _).bind ?_ ?_)
  · rintro e made (⟨impossible, _⟩ | ⟨_, _, quiet⟩)
    · cases impossible
    · exact .failed e made (.quiet quiet)
  rintro _ made (⟨_, info, rfl⟩ | ⟨e, impossible, _⟩)
  swap
  · cases impossible
  dsimp only
  split
  · intro m
    exact ⟨[], (List.append_nil m.calls).symm, .silent _ info rfl⟩
  refine attach_makes.bind ?_ ?_
  · rintro e made (⟨h, callbacks, impossible, _⟩ | ⟨_, code, _, rfl⟩)
    · cases impossible
    · have inner : Balanced [Call.failed .createMessenger code] :=
        .quiet (Call.quiet_failed _ code)
      exact .failed e _ (inner.bracket (x := .driver) rfl rfl (by simp [created_cons, Call.creates?])
        (by simp [created_cons, Call.creates?]))
  · rintro messenger made (⟨h, callbacks, ⟨⟩, rfl, quiet⟩ | ⟨e, code, impossible, _⟩) m
    · refine ⟨[], (List.append_nil m.calls).symm, ?_⟩
      simp only [List.append_nil, List.singleton_append]
      exact .heard ⟨m.nextInstance, some h⟩ info h callbacks rfl quiet
    · cases impossible

def ending (i : Instance) : List Call :=
  (i.messenger.map Call.destroyMessenger).toList ++ [.destroyInstance]

theorem destroy_makes (i : Instance) : Makes i.destroy fun _ made =>
    made = i.ending := by
  intro m
  unfold destroy ending
  cases i.messenger with
  | none => exact ⟨_, rfl, rfl⟩
  | some h => exact ⟨_, List.append_assoc _ _ _, rfl⟩

theorem Creation.around {i : Instance} {begun made : List Call} (creation : Creation (.ok i) begun)
    (balanced : Balanced made) (within_device : ∀ y ∈ created made, y.OfDevice) :
    Balanced (begun ++ (made ++ i.ending)) := by
  have no_driver : .driver ∉ created made := fun mem =>
    Object.not_ofDevice_driver (within_device _ mem)
  cases creation with
  | silent _ info alone =>
    rw [ending, alone]
    exact balanced.bracket (x := .driver) rfl rfl no_driver (by simp [Object.parent?])
  | heard _ info h callbacks attached quiet =>
    have created_inner : created (callbacks ++ made) = created made := by
      rw [created_append, created_of_quiet quiet, List.nil_append]
    have heard : Balanced (.createMessenger h :: ((callbacks ++ made) ++ [.destroyMessenger h])) := by
      refine (balanced.after_quiet quiet).bracket (x := .messenger h) rfl rfl ?_ ?_
      · rw [created_inner]
        exact fun mem => Object.not_ofDevice_messenger h (within_device _ mem)
      · rw [created_inner]
        rintro y mem ⟨⟩
        exact no_driver mem
    have eq : .createInstance info :: .createMessenger h :: callbacks ++ (made ++ i.ending) =
        .createInstance info :: ((.createMessenger h ::
          ((callbacks ++ made) ++ [.destroyMessenger h])) ++ [.destroyInstance]) := by
      simp [ending, attached]
    rw [eq]
    refine heard.bracket (x := .driver) rfl rfl ?_ (by simp [Object.parent?])
    simp [created_cons, created_append, created_of_quiet quiet, Call.creates?, no_driver]

end Instance

namespace Device

/-- The selection of a device as its lifetime has it: nothing is left of it, or it is there and has
its queues. -/
inductive Opening : Except Failure Device → List Call → Prop
  | failed (f : Failure) (made : List Call) (balanced : Balanced made)
      (few : ∀ y ∈ created made, y = .device) : Opening (.error f) made
  | opened (d : Device) (info : DeviceInfo) (queues : List Call) (quiet : ∀ c ∈ queues, c.Quiet) :
      Opening (.ok d) (.createDevice info :: queues)

theorem getQueues_quiet (slots : List (Nat × Nat)) (handles : List Handle) :
    ∀ c ∈ List.zipWith queueCall slots handles, c.Quiet := by
  intro c mem
  obtain ⟨slot, -, handle, rfl⟩ := exists_queueCall mem
  exact ⟨rfl, rfl⟩

theorem opening_of_quiet {f : Failure} {made : List Call} (quiet : ∀ c ∈ made, c.Quiet) :
    Opening (.error f) made := by
  refine .failed f made (.quiet quiet) ?_
  rw [created_of_quiet quiet]
  simp

theorem opening_of_creation {info : DeviceInfo} {slots : List (Nat × Nat)}
    {result : Except Failure Device} {made : List Call} (creation : Creation info slots result made) :
    Opening result made := by
  cases creation with
  | unnamed f => exact opening_of_quiet (by simp)
  | refused f code => exact opening_of_quiet (Call.quiet_failed _ code)
  | kept device each => exact .opened device info _ (getQueues_quiet slots device.queues)
  | dropped f handles each =>
    have quiet := getQueues_quiet slots handles
    have nothing := created_of_quiet quiet
    refine .failed f _ ((Balanced.quiet quiet).bracket (x := .device) rfl rfl ?_ ?_) ?_
    · simp [nothing]
    · simp [nothing]
    · simp [created_cons, created_append, nothing, Call.creates?]

theorem select_makes (owner : Instance) (r : DeviceRequest) (table : WorkaroundTable)
    (disabled : Bool) : Makes (select owner r table disabled) Opening := by
  intro m
  cases select_outcome owner r table disabled m with
  | stopped f m' ended quiet cause =>
    rw [ended]
    rcases quiet with still | ⟨code, still⟩
    · exact ⟨[], by rw [still, List.append_nil], opening_of_quiet (by simp)⟩
    · exact ⟨_, still, opening_of_quiet (Call.quiet_failed _ code)⟩
  | asked i physical p m' candidate quiet passed went =>
    obtain ⟨made, grown, creation⟩ :=
      complete_makes owner physical p (.ofProperties p.properties) r m'
    rw [went]
    exact ⟨made, by rw [grown, quiet], opening_of_creation creation⟩

def Waited (c : Call) : Prop := c = .waitIdle ∨ ∃ code, c = .failed .waitIdle code

theorem Waited.quiet {wait : Call} (waited : Waited wait) : ∀ c ∈ [wait], c.Quiet := by
  intro c mem
  obtain rfl := List.mem_singleton.mp mem
  rcases waited with rfl | ⟨code, rfl⟩
  · exact ⟨rfl, rfl⟩
  · exact ⟨rfl, rfl⟩

theorem closed_around {info : DeviceInfo} {queues used : List Call} {wait : Call}
    (quiet : ∀ c ∈ queues, c.Quiet) (waited : Waited wait) (balanced : Balanced used)
    (children : ∀ y ∈ created used, y.parent? = some .device) :
    Balanced (.createDevice info :: queues ++ (used ++ [wait, .destroyDevice])) ∧
      ∀ y ∈ created (.createDevice info :: queues ++ (used ++ [wait, .destroyDevice])),
        y.OfDevice := by
  have inner : Balanced ((queues ++ used) ++ [wait]) :=
    (balanced.after_quiet quiet).before_quiet waited.quiet
  have created_inner : created ((queues ++ used) ++ [wait]) = created used := by
    rw [created_append, created_append, created_of_quiet quiet, created_of_quiet waited.quiet,
      List.nil_append, List.append_nil]
  have eq : .createDevice info :: queues ++ (used ++ [wait, .destroyDevice]) =
      .createDevice info :: (((queues ++ used) ++ [wait]) ++ [.destroyDevice]) := by
    simp
  rw [eq]
  constructor
  · refine inner.bracket (x := .device) rfl rfl ?_ ?_
    · rw [created_inner]
      intro mem
      cases children _ mem
    · rw [created_inner]
      rintro y mem ⟨⟩
      cases children _ mem
  · intro y mem
    have created_all : created (.createDevice info ::
        (((queues ++ used) ++ [wait]) ++ [.destroyDevice])) = .device :: created used := by
      rw [created_cons_of_creates rfl, created_append, created_inner]
      exact congrArg _ (List.append_nil _)
    rw [created_all] at mem
    exact (List.mem_cons.mp mem).imp_right (children y)

theorem close_makes (d : Device) : Makes d.close fun _ made =>
    ∃ wait, Waited wait ∧ made = [wait, .destroyDevice] := by
  have waits : Makes waitIdle fun _ made => ∃ wait, Waited wait ∧ made = [wait] := by
    refine (Action.attempt_makes .waitIdle).attempted_bind ?_ ?_
    · exact fun e code => ⟨_, .inr ⟨code, rfl⟩, rfl⟩
    · exact fun _ => .called ⟨_, .inl rfl, rfl⟩
  have heard : Makes waitIdle.outcome fun r made => (∃ o, r = .ok o) ∧
      ∃ wait, Waited wait ∧ made = [wait] :=
    waits.outcome fun r more said => ⟨⟨r, rfl⟩, said⟩
  refine .say (heard.bind ?_ ?_)
  · rintro e made ⟨⟨o, impossible⟩, _⟩
    cases impossible
  rintro o made ⟨-, wait, waited, rfl⟩ m
  cases o with
  | ok u => exact ⟨[.destroyDevice], rfl, wait, waited, rfl⟩
  | error f => exact ⟨[.destroyDevice], rfl, wait, waited, rfl⟩

end Device
end SceneGpu.Gpu
