import SceneGpu.Proofs.Gpu.Destruction
import SceneGpu.Proofs.Gpu.MemberWrites
import SceneGpu.Proofs.Object.UniformBuffers
import SceneGpu.Proofs.Object.SetLifetime
/-!
Buffers that are shared by objects, under several names perhaps, and by resources taken out of them.
Whoever destroys a buffer first destroys it for all: the driver is asked once, and whoever comes later
finds it gone.
-/
namespace SceneGpu

open Gpu
open Gpu.Machine (Act Spared)

def Detached.buffers (d : Detached) : List BufferRef := d.vertexBuffers ++ d.uniformBuffers

structure Scene where
  machine : Machine
  objects : Nat → ObjectState
  detached : List Detached

namespace Scene

def start (hardware : Hardware) (plan : Plan) : Scene := ⟨.start hardware plan, fun _ => {}, []⟩

/-- What may happen. An act makes a buffer, writes to one or destroys one, or is aside. An edit is
anything done to an object alone, such as publishing a buffer in one of its maps or taking it back.
Resources may also be gathered by hand, from whatever buffers there are. -/
inductive Op where
  | act (a : Act) (calm : a.Calm)
  | edit (i : Nat) (f : ObjectState → ObjectState)
  | createUniforms (i : Nat) (d : Device) (modules : List ShaderModule)
  | bindTextures (i : Nat) (layout pool : Handle) (binding : UInt32)
  | detach (i : Nat)
  | gather (d : Detached)
  | dispose (k : Nat)

def withObject (u : Scene) (i : Nat) (o : ObjectState) : Scene :=
  { u with objects := Function.update u.objects i o }

def after {α : Type} (x : ObjectState.Step Machine α) : Machine :=
  { x.backend with records := x.backend.records ++ x.records }

/-- The resources are gone once they have been disposed of; their buffers may still be held elsewhere. -/
def perform (u : Scene) : Op → Scene
  | .act a _ => { u with machine := u.machine.perform a }
  | .edit i f => u.withObject i (f (u.objects i))
  | .createUniforms i d modules =>
    match (u.objects i).createUniformBuffers d modules u.machine with
    | (.error _, m) => { u with machine := m }
    | (.ok (o, _), m) => { u.withObject i o with machine := m }
  | .bindTextures i layout pool binding =>
    let x := (u.objects i).bindTextures deviceBackend layout pool binding u.machine
    { u.withObject i x.object with machine := after x }
  | .detach i =>
    let x := (u.objects i).detach deviceBackend u.machine
    { u.withObject i x.object with machine := after x, detached := u.detached ++ x.result.toOption.toList }
  | .gather d => { u with detached := u.detached ++ [d] }
  | .dispose k =>
    match u.detached[k]? with
    | none => u
    | some d => { u with machine := (d.destroy u.machine).2, detached := u.detached.eraseIdx k }

def performAll (u : Scene) (ops : List Op) : Scene := ops.foldl perform u

def Op.Asks (u : Scene) (r : BufferRef) : Op → Prop
  | .act a _ => a = .destroy r
  | .dispose k => ∃ d ∈ u.detached[k]?, r ∈ d.buffers
  | _ => False

def Asked (r : BufferRef) : Scene → List Op → Prop
  | _, [] => False
  | u, op :: rest => op.Asks u r ∨ Asked r (u.perform op) rest

end Scene

section sparing

open Gpu.Action (Sparing)

theorem Gpu.PipelineHandle.destroy_sparing (p : PipelineHandle) : Sparing p.destroy := by
  refine Sparing.bind (.called (.of_none ?_ ?_)) fun _ => .called (.of_none ?_ ?_)
  all_goals simp [Call.creates?, Call.destroys?]

namespace ObjectState

variable (o : ObjectState) (m : Machine)

theorem release_spared : Spared m (o.release deviceBackend m).backend := by
  unfold release
  cases o.textureSet with
  | none => exact .refl m
  | some bound =>
    have freed : Sparing (do
        Action.attempt .freeSets
        Action.called (.freeSets bound.pool [bound.set])) :=
      (Sparing.attempt .freeSets).bind fun _ => .called (.of_none
        (by simp [Call.creates?]) (by simp [Call.destroys?]))
    exact freed.within "Failed to free descriptor set" m

theorem bindTextures_spared (layout pool : Handle) (binding : UInt32) :
    Spared m (o.bindTextures deviceBackend layout pool binding m).backend := by
  have released := o.release_spared m
  have allocated : Sparing (deviceBackend.allocate pool layout) :=
    (Sparing.create .allocateSets fun h => .of_none
      (by simp [Call.creates?]) (by simp [Call.destroys?])).within "Failed to allocate descriptor set"
  rcases bindTextures_cases deviceBackend o layout pool binding m with
    ⟨e, _, eq⟩ | ⟨e, _, eq⟩ | ⟨set, _, eq⟩
  · rw [eq]
    exact released
  · rw [eq]
    exact released.trans (allocated _)
  · rw [eq]
    have written : Sparing (Action.called (.updateSets
        ((imageWrites binding (o.release deviceBackend m).object.textures).map fun w => (set, w)))) :=
      .called (.of_none (by simp [Call.creates?]) (by simp [Call.destroys?]))
    exact (released.trans (allocated _)).trans (written _)

theorem detach_spared : Spared m (o.detach deviceBackend m).backend := by
  rw [detach_backend]
  exact o.release_spared m

end ObjectState

theorem Scene.after_spared {α : Type} {m : Machine} {x : ObjectState.Step Machine α}
    (spared : Spared m x.backend) : Spared m (Scene.after x) := ⟨spared.same, spared.calls⟩

end sparing

namespace Gpu.Machine

/-- One machine comes from the other by calm acts, and these are the buffers that are destroyed. -/
def Carried (m m' : Machine) (asked : BufferRef → Prop) : Prop :=
  ∃ acts : List Act, m' = m.performAll acts ∧ (∀ a ∈ acts, a.Calm) ∧
    ∀ r, .destroy r ∈ acts ↔ asked r

namespace Carried

variable {m m' m'' : Machine} {asked later : BufferRef → Prop}

theorem refl (m : Machine) : Carried m m fun _ => False :=
  ⟨[], rfl, List.forall_mem_nil _, fun _ => by simp⟩

theorem act (m : Machine) {a : Act} (calm : a.Calm) : Carried m (m.perform a) fun r => a = .destroy r :=
  ⟨[a], rfl, by simpa using calm, fun r => by simp [eq_comm]⟩

theorem trans (first : Carried m m' asked) (second : Carried m' m'' later) :
    Carried m m'' fun r => asked r ∨ later r := by
  obtain ⟨a, rfl, calm, destroys⟩ := first
  obtain ⟨b, rfl, still, others⟩ := second
  refine ⟨a ++ b, List.foldl_append.symm, List.forall_mem_append.mpr ⟨calm, still⟩, ?_⟩
  intro r
  rw [List.mem_append, destroys, others]

theorem congr (carried : Carried m m' asked) (same : ∀ r, asked r ↔ later r) : Carried m m' later := by
  obtain ⟨acts, run, calm, destroys⟩ := carried
  exact ⟨acts, run, calm, fun r => (destroys r).trans (same r)⟩

theorem aside {f : Machine → Machine} (spared : ∀ m, Spared m (f m)) (m : Machine) :
    Carried m (f m) fun _ => False :=
  (act m (a := .aside f fun m => (spared m).same) spared).congr fun r => by simp

end Carried
end Gpu.Machine

open Gpu.Machine (Carried)

theorem Gpu.Buffer.destroyAll_run (rs : List BufferRef) (m : Machine) :
    Buffer.destroyAll rs m = (.ok (), m.performAll (rs.map .destroy)) := by
  induction rs generalizing m with
  | nil => rfl
  | cons r rest ih =>
    have first : Buffer.destroy r m = (.ok (), m.perform (.destroy r)) :=
      Prod.ext (Buffer.destroy_ok r m) rfl
    rw [Buffer.destroyAll, Effect.bind_of_ok first, ih]
    rfl

namespace Detached

def dropPipeline (d : Detached) (m : Machine) : Machine :=
  match d.pipeline with
  | none => m
  | some p => (p.destroy m).2

theorem destroy_run (d : Detached) (m : Machine) :
    d.destroy m = (.ok (), (d.dropPipeline m).performAll (d.buffers.map .destroy)) := by
  have both (m : Machine) : (do
      Buffer.destroyAll d.vertexBuffers
      Buffer.destroyAll d.uniformBuffers : Action Unit) m =
        (.ok (), m.performAll (d.buffers.map .destroy)) := by
    rw [Effect.bind_of_ok (Buffer.destroyAll_run _ m), Buffer.destroyAll_run, buffers, List.map_append]
    simp only [Machine.performAll, List.foldl_append]
  unfold destroy dropPipeline
  cases d.pipeline with
  | none => exact both m
  | some p =>
    have dropped : p.destroy m = (.ok (), (p.destroy m).2) := rfl
    exact (Effect.bind_of_ok dropped).trans (both _)

theorem dropPipeline_spared (d : Detached) (m : Machine) : Spared m (d.dropPipeline m) := by
  unfold dropPipeline
  cases d.pipeline with
  | none => exact .refl m
  | some p => exact p.destroy_sparing m

def without (d : Detached) (r : BufferRef) : Detached :=
  { d with vertexBuffers := d.vertexBuffers.filter (· ≠ r)
           uniformBuffers := d.uniformBuffers.filter (· ≠ r) }

theorem destroy_without (d : Detached) {m : Machine} {r : BufferRef} {b : HostBuffer}
    (sound : m.storage.Sound) (held : m.held[r]? = some b) (gone : b.allocation = none) :
    d.destroy m = (d.without r).destroy m := by
  have same := (d.dropPipeline_spared m).same
  have still : (d.dropPipeline m).held[r]? = some b := by
    rw [show (d.dropPipeline m).held = m.held from same.held, held]
  rw [destroy_run, destroy_run, Machine.performAll_destroy_filter (sound.same same) still gone, buffers,
    List.filter_append]
  rfl

theorem destroy_carried (d : Detached) (m : Machine) :
    Carried m (d.destroy m).2 fun r => r ∈ d.buffers := by
  rw [destroy_run]
  have rest : Carried (d.dropPipeline m) ((d.dropPipeline m).performAll (d.buffers.map .destroy))
      fun r => r ∈ d.buffers := by
    refine ⟨_, rfl, ?_, fun r => ?_⟩
    · simp [Act.Calm]
    · simp
  exact ((Carried.aside d.dropPipeline_spared m).trans rest).congr fun r => by simp

end Detached

namespace ObjectState

theorem addUniformBuffers_carried (d : Device) (specs : List Spec) (buffers : BufferMap) (m : Machine) :
    Carried m (addUniformBuffers d specs buffers m).2 fun _ => False := by
  induction specs generalizing buffers m with
  | nil => exact .refl m
  | cons s rest ih =>
    rw [addUniformBuffers]
    split
    · exact ih buffers m
    · have made : Carried m (Buffer.fromSpec d s m).2 fun _ => False :=
        (Carried.act m (a := .makeUniform d s) trivial).congr fun r => by simp
      cases run : Buffer.fromSpec d s m with
      | mk result m' =>
        rw [run] at made
        cases result with
        | error e =>
          rw [Effect.bind_of_error run]
          exact made
        | ok b =>
          rw [Effect.bind_of_ok run]
          exact (made.trans (ih _ m')).congr fun r => by simp

theorem createUniformBuffers_carried (o : ObjectState) (d : Device) (modules : List ShaderModule)
    (m : Machine) : Carried m (o.createUniformBuffers d modules m).2 fun _ => False := by
  have added := addUniformBuffers_carried d (uniformSpecs modules) o.uniformBuffers m
  unfold createUniformBuffers
  cases run : addUniformBuffers d (uniformSpecs modules) o.uniformBuffers m with
  | mk result m' =>
    rw [run] at added
    cases result with
    | error e =>
      rw [Effect.bind_of_error run]
      exact added
    | ok buffers =>
      rw [Effect.bind_of_ok run]
      exact added

end ObjectState

namespace Scene

theorem perform_carried (u : Scene) (op : Op) :
    Carried u.machine (u.perform op).machine fun r => op.Asks u r := by
  cases op with
  | act a calm => exact .act u.machine calm
  | edit i f => exact .refl _
  | createUniforms i d modules =>
    have made := (u.objects i).createUniformBuffers_carried d modules u.machine
    unfold perform
    dsimp only
    split
    all_goals
      rename_i run
      rw [run] at made
      exact made
  | bindTextures i layout pool binding =>
    exact .aside (fun m => after_spared ((u.objects i).bindTextures_spared m layout pool binding)) _
  | detach i => exact .aside (fun m => after_spared ((u.objects i).detach_spared m)) _
  | gather d => exact .refl _
  | dispose k =>
    unfold perform Op.Asks
    dsimp only
    cases there : u.detached[k]? with
    | none => exact (Carried.refl _).congr fun r => by simp
    | some d => exact (d.destroy_carried u.machine).congr fun r => by simp

theorem performAll_carried (u : Scene) (ops : List Op) :
    Carried u.machine (u.performAll ops).machine fun r => Asked r u ops := by
  induction ops generalizing u with
  | nil => exact .refl _
  | cons op rest ih => exact (u.perform_carried op).trans (ih (u.perform op))

end Scene

namespace Gpu

inductive NewBuffer where
  | data (d : Device) (name : String) (usage : UInt32) (bytes : List UInt8)
  | uniform (d : Device) (spec : Spec)

namespace NewBuffer

def role : NewBuffer → BufferRole
  | .data _ name usage _ => .data name usage
  | .uniform _ spec => .uniform spec

def run : NewBuffer → Action BufferRef
  | .data d name usage bytes => Buffer.withData d name usage bytes
  | .uniform d spec => Buffer.fromSpec d spec

def act : NewBuffer → Act
  | .data d name usage bytes => .make d name usage bytes
  | .uniform d spec => .makeUniform d spec

theorem act_calm (c : NewBuffer) : c.act.Calm := by
  cases c <;> trivial

theorem perform_act (c : NewBuffer) (m : Machine) : m.perform c.act = (c.run m).2 := by
  cases c <;> rfl

theorem run_making {m : Machine} (numbered : m.storage.Numbered) (c : NewBuffer) :
    ∃ size, Action.Ends c.run m (Buffer.Making c.role size m.storage) := by
  cases c with
  | data d name usage bytes => exact ⟨_, Buffer.withData_ends d name usage bytes numbered⟩
  | uniform d spec => exact ⟨_, Buffer.fromSpec_ends d spec numbered⟩

theorem run_ok {c : NewBuffer} {m m' : Machine} {r : BufferRef} (numbered : m.storage.Numbered)
    (made : c.run m = (.ok r, m')) :
    ∃ size a, m'.held[r]? = some ⟨c.role, m.nextHandle, size, some a⟩ := by
  obtain ⟨size, calls, -, making⟩ := c.run_making numbered
  rw [made] at making
  generalize left : m'.storage = t at making
  cases making with
  | made usage length bytes =>
    refine ⟨size, m.storage.next length, ?_⟩
    rw [show m'.held = m.held ++ [_] from congrArg Storage.held left]
    exact List.getElem?_concat_length

end NewBuffer
end Gpu

namespace Scene

/-- What has become of a buffer, the only one ever with its handle: the driver was asked to destroy it
once if anyone was, and never if nobody was. To destroy a buffer or resources always succeeds, and what
is gone already is passed over. -/
structure Outcome (b : HostBuffer) (r : BufferRef) (asked : Prop) (m : Machine) : Prop where
  only : (created m.calls).count (.buffer b.handle) = 1
  gone : asked → b.Gone r m
  alive : ¬asked → b.Alive r m
  destroy : ∀ other, (Buffer.destroy other m).1 = .ok ()
  dispose : ∀ d : Detached, (d.destroy m).1 = .ok ()
  passed : asked → ∀ d : Detached, d.destroy m = (d.without r).destroy m

structure DestroysOnce (u : Scene) : Prop where
  held : ∀ r b, u.machine.held[r]? = some b → b.allocation ≠ none → b.handle ≠ 0 ∧
    ∀ later, Outcome b r (Asked r u later) (u.performAll later).machine
  made : ∀ (c : NewBuffer) r m, c.run u.machine = (.ok r, m) →
    ∃ b, m.held[r]? = some b ∧ b.role = c.role ∧ b.handle ≠ 0 ∧ ∀ later,
      Outcome b r (Asked r { u with machine := m } later)
        ({ u with machine := m }.performAll later).machine

theorem performAll_accounted {u : Scene} (accounted : u.machine.Accounted) (ops : List Op) :
    (u.performAll ops).machine.Accounted := by
  obtain ⟨acts, run, calm, -⟩ := u.performAll_carried ops
  rw [run]
  exact (accounted.performAll calm).1

theorem outcome_performAll {u : Scene} (accounted : u.machine.Accounted) {r : BufferRef}
    {b : HostBuffer} (held : u.machine.held[r]? = some b) (alive : b.allocation ≠ none)
    (later : List Op) : Outcome b r (Asked r u later) (u.performAll later).machine := by
  obtain ⟨acts, run, calm, destroys⟩ := u.performAll_carried later
  obtain ⟨role, h, size, _ | a⟩ := b
  · exact absurd rfl alive
  have sound := (accounted.performAll calm).1.sound
  rw [run]
  refine ⟨Machine.created_performAll accounted calm held, fun asked => ?_, fun unasked => ?_,
    fun other => Buffer.destroy_ok other _, fun d => congrArg Prod.fst (d.destroy_run _),
    fun asked d => ?_⟩
  · exact HostBuffer.gone_performAll accounted calm held ((destroys r).mpr asked)
  · exact HostBuffer.alive_performAll accounted calm held (unasked ∘ (destroys r).mp)
  · have gone := HostBuffer.gone_performAll accounted calm held ((destroys r).mpr asked)
    exact d.destroy_without sound gone.null rfl

theorem destroyed_once (hardware : Hardware) (plan : Plan) (ops : List Op) :
    DestroysOnce ((start hardware plan).performAll ops) := by
  have accounted := performAll_accounted (u := start hardware plan)
    (Machine.accounted_start hardware plan) ops
  generalize (start hardware plan).performAll ops = u at accounted
  constructor
  · intro r b held alive
    refine ⟨?_, outcome_performAll accounted held alive⟩
    obtain ⟨role, h, size, _ | a⟩ := b
    · exact absurd rfl alive
    · exact accounted.handle_ne_zero held
  · intro c r m made
    have now := (accounted.perform c.act_calm).1
    rw [c.perform_act, made] at now
    obtain ⟨size, a, held⟩ := NewBuffer.run_ok accounted.sound.numbered made
    exact ⟨_, held, rfl, now.handle_ne_zero held,
      outcome_performAll (u := { u with machine := m }) now held (fun h => nomatch h)⟩

/- A buffer under two names of one object and under one of another. It is disposed of with what the
first object held, then destroyed by itself, then disposed of again. -/
namespace Quad

open Spec.Lamp (device)

def before : Scene :=
  (start ⟨[], ⟨0xFFFFFFFF, 1, 0⟩, []⟩ .none).performAll [.act (.make device "floor" 64 [9]) trivial]

def quad : NewBuffer := .data device "quad" 128 [1, 2, 3]

def made : Except Failure BufferRef × Machine := quad.run before.machine

def publish (name : String) (o : ObjectState) : ObjectState := (o.setVertexBuffer name 1).1

def later : List Op :=
  [.edit 0 (publish "near"), .edit 0 (publish "far"), .edit 1 (publish "near"), .detach 0,
    .gather ⟨none, [0, 1], []⟩, .dispose 0, .act (.destroy 1) trivial, .dispose 0]

def ended : Scene := { before with machine := made.2 }.performAll later

end Quad

open Quad in
theorem destroyed_once_two_names :
    made = (.ok 1, made.2) ∧ Asked 1 { before with machine := made.2 } later ∧
      HostBuffer.Gone ⟨.data "quad" 128, 2, 3, some ⟨1, 3⟩⟩ 1 ended.machine ∧
      (ended.objects 1).vertexBuffers.get? "near" = some 1 := by
  have run : made = (.ok 1, made.2) := rfl
  have asked : Asked 1 { before with machine := made.2 } later :=
    .inr (.inr (.inr (.inr (.inr (.inl ⟨⟨none, [1, 1], []⟩, rfl, by decide⟩)))))
  obtain ⟨b, held, -, -, outcome⟩ := (destroyed_once _ _ _).made quad 1 made.2 run
  obtain rfl : ⟨.data "quad" 128, 2, 3, some ⟨1, 3⟩⟩ = b := Option.some.inj held
  exact ⟨run, asked, (outcome later).gone asked, rfl⟩

end Scene
end SceneGpu
