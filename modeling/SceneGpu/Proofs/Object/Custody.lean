import Mathlib.Data.List.Nodup
import Mathlib.Data.List.Perm.Basic
import SceneGpu.Proofs.Object.SetLifetime
import SceneGpu.Proofs.Object.UniformBuffers
/-!
Who has the pipelines and buffers of an object. Each that was ever installed is still held or was
handed back, once: an operation hands out exactly what it takes out of the object.
-/
namespace SceneGpu

open Gpu Effect

section backends

variable {σ : Type}

structure SetBackend.LeavesBuffers (b : SetBackend (σ × Machine)) : Prop where
  allocate : ∀ pool layout, Preserves (fun s => s.2.held) (b.allocate pool layout)
  free : ∀ pool set, Preserves (fun s => s.2.held) (b.free pool set)
  write : ∀ set writes s, (b.write set writes s).2.held = s.2.held

def SetBackend.onMachine (b : SetBackend Machine) : SetBackend (σ × Machine) where
  allocate := fun pool layout s =>
    let r := b.allocate pool layout s.2
    (r.1, s.1, r.2)
  free := fun pool set s =>
    let r := b.free pool set s.2
    (r.1, s.1, r.2)
  write := fun set writes s => (s.1, b.write set writes s.2)

theorem deviceBackend_leavesBuffers : (deviceBackend.onMachine (σ := σ)).LeavesBuffers where
  allocate := by
    intro pool layout s
    exact (Action.create_held _ _).within "Failed to allocate descriptor set" s.2
  free := by
    intro pool set s
    have freed := (Action.attempt_held .freeSets).bind fun _ => Action.called_held (.freeSets pool [set])
    exact freed.within "Failed to free descriptor set" s.2
  write := by
    intro set writes s
    rfl

end backends

namespace ObjectState

structure Belongings where
  pipelines : List PipelineHandle
  vertexBuffers : List BufferRef
  uniformBuffers : List BufferRef
deriving DecidableEq, Repr

namespace Belongings

def none : Belongings := ⟨[], [], []⟩

instance : Append Belongings where
  append a b := ⟨a.pipelines ++ b.pipelines, a.vertexBuffers ++ b.vertexBuffers,
    a.uniformBuffers ++ b.uniformBuffers⟩

structure Alike (a b : Belongings) : Prop where
  pipelines : a.pipelines.Perm b.pipelines
  vertexBuffers : a.vertexBuffers.Perm b.vertexBuffers
  uniformBuffers : a.uniformBuffers.Perm b.uniformBuffers

theorem Alike.refl (a : Belongings) : Alike a a := ⟨.refl _, .refl _, .refl _⟩

theorem append_none (a : Belongings) : a ++ none = a := by
  change (⟨_, _, _⟩ : Belongings) = a
  simp [none]

theorem perm_exchange {α : Type} {held held' back installed came gone : List α}
    (balance : (held ++ back).Perm installed) (exchange : (held' ++ gone).Perm (held ++ came)) :
    (held' ++ (back ++ gone)).Perm (installed ++ came) := by
  classical
  rw [List.perm_iff_count]
  intro a
  have before := balance.count_eq a
  have now := exchange.count_eq a
  simp only [List.count_append] at before now ⊢
  omega

/-- A balance is kept by an exchange of what comes in for what goes out. -/
theorem Alike.exchange {held held' back installed came gone : Belongings}
    (balance : Alike (held ++ back) installed) (exchange : Alike (held' ++ gone) (held ++ came)) :
    Alike (held' ++ (back ++ gone)) (installed ++ came) where
  pipelines := perm_exchange balance.pipelines exchange.pipelines
  vertexBuffers := perm_exchange balance.vertexBuffers exchange.vertexBuffers
  uniformBuffers := perm_exchange balance.uniformBuffers exchange.uniformBuffers

end Belongings

open Belongings (Alike)

def held (o : ObjectState) : Belongings :=
  ⟨o.pipeline.toList, o.vertexBuffers.values, o.uniformBuffers.values⟩

theorem setPipeline_exchange (o : ObjectState) (p : PipelineHandle) :
    Alike ((o.setPipeline p).1.held ++ ⟨(o.setPipeline p).2.toList, [], []⟩)
      (o.held ++ ⟨[p], [], []⟩) where
  pipelines := List.perm_append_comm
  vertexBuffers := .refl _
  uniformBuffers := .refl _

theorem setVertexBuffer_exchange {o : ObjectState} (ascending : o.vertexBuffers.Ascending)
    (name : String) (buffer : BufferRef) :
    Alike ((o.setVertexBuffer name buffer).1.held ++ ⟨[], (o.setVertexBuffer name buffer).2.toList, []⟩)
      (o.held ++ ⟨[], [buffer], []⟩) where
  pipelines := .refl _
  vertexBuffers := ascending.values_insert name buffer
  uniformBuffers := .refl _

section uniform

def buffersSince (before now : Machine) : List BufferRef :=
  List.range' before.held.length (now.held.length - before.held.length)

variable {d : Device} {specs : List Spec} {buffers buffers' : BufferMap} {m m' : Machine}

theorem addUniformBuffers_adds_held (d : Device) (specs : List Spec) (buffers : BufferMap) :
    Adds Machine.held (addUniformBuffers d specs buffers) fun _ _ => True := by
  induction specs generalizing buffers with
  | nil => exact fun m => ⟨[], (List.append_nil _).symm, trivial⟩
  | cons s rest ih =>
    rw [addUniformBuffers]
    split
    · exact ih buffers
    · exact (Buffer.fromSpec_adds d s).bind (fun _ _ _ => trivial) fun r _ _ => ih _

theorem buffersSince_append {more : List HostBuffer} (grown : m'.held = m.held ++ more) :
    buffersSince m m' = List.range' m.held.length more.length := by
  simp [buffersSince, grown]

theorem addUniformBuffers_values (ascending : buffers.Ascending)
    (run : addUniformBuffers d specs buffers m = (.ok buffers', m')) :
    buffers'.Ascending ∧ buffers'.values.Perm (buffers.values ++ buffersSince m m') := by
  induction specs generalizing buffers m with
  | nil =>
    cases run
    exact ⟨ascending, by simp [buffersSince]⟩
  | cons s rest ih =>
    rcases addUniformBuffers_cons_ok run with ⟨_, _, later⟩ | ⟨free, r, m₁, made, later⟩
    · exact ih ascending later
    · obtain ⟨still, all⟩ := ih (ascending.insert s.name r) later
      obtain ⟨rfl, b, one, _⟩ := Buffer.fromSpec_ok made
      obtain ⟨more, grown, _⟩ := addUniformBuffers_adds_held d rest _ m₁
      rw [later] at grown
      have both : m'.held = m.held ++ (b :: more) := by
        rw [one] at grown
        simpa using grown
      have inserted := ascending.values_insert s.name m.held.length
      rw [free, Option.toList_none, List.append_nil] at inserted
      refine ⟨still, ?_⟩
      rw [buffersSince_append grown, one, List.length_append] at all
      rw [buffersSince_append both, List.length_cons, List.range'_succ, List.append_cons]
      exact all.trans (inserted.append_right _)

theorem createUniformBuffers_adds_held (o : ObjectState) (d : Device) (modules : List ShaderModule) :
    Adds Machine.held (o.createUniformBuffers d modules) fun _ _ => True := by
  refine Adds.bind (addUniformBuffers_adds_held d _ _) (fun _ _ _ => trivial) ?_
  intro buffers more _
  exact .pure trivial

theorem createUniformBuffers_exchange {o o' : ObjectState} {modules : List ShaderModule}
    {created : Nat} (ascending : o.uniformBuffers.Ascending)
    (run : o.createUniformBuffers d modules m = (.ok (o', created), m')) :
    o' = { o with uniformBuffers := o'.uniformBuffers } ∧ o'.uniformBuffers.Ascending ∧
      Alike (o'.held ++ .none) (o.held ++ ⟨[], [], buffersSince m m'⟩) := by
  obtain ⟨still, all⟩ := addUniformBuffers_values ascending (createUniformBuffers_ok run)
  obtain ⟨buffers, m₁, _, rest⟩ := bind_ok.mp run
  obtain ⟨eq, _⟩ := pure_ok.mp rest
  cases eq
  refine ⟨rfl, still, .refl _, .refl _, ?_⟩
  rw [show (_ ++ Belongings.none).uniformBuffers = buffers.values ++ [] from rfl, List.append_nil]
  exact all

end uniform

section sets

variable {σ : Type} (b : SetBackend σ) (o : ObjectState) (s : σ)

theorem bindTextures_object (layout pool : Handle) (binding : UInt32) :
    ∃ set, (o.bindTextures b layout pool binding s).object = { o with textureSet := set } := by
  rcases bindTextures_cases b o layout pool binding s with ⟨e, _, eq⟩ | ⟨e, _, eq⟩ | ⟨set, _, eq⟩
  · exact ⟨none, by rw [eq, release_object]⟩
  · exact ⟨none, by rw [eq, release_object]⟩
  · exact ⟨some ⟨set, pool⟩, by rw [eq, release_object]⟩

/-- A detach either takes everything out of the object or only loses its texture set. -/
theorem detach_cases :
    (∃ e, (o.detach b s).result = .error e ∧ (o.detach b s).object = { o with textureSet := none }) ∨
    ((o.detach b s).result = .ok ⟨o.pipeline, o.vertexBuffers.values, o.uniformBuffers.values⟩ ∧
      (o.detach b s).object = { o with
        textureSet := none, initialized := false, pipeline := none
        vertexBuffers := .empty, uniformBuffers := .empty }) := by
  have object := release_object (b := b) (o := o) (s := s)
  unfold detach
  cases released : (o.release b s).result with
  | error e => exact .inl ⟨e, by simp only [released], by simp only [released, object]⟩
  | ok u => exact .inr ⟨by simp only [released, object], by simp only [released, object]⟩

end sets

structure Custody (σ : Type) where
  object : ObjectState
  backend : σ × Machine
  installed : Belongings
  handedBack : Belongings

inductive Act where
  | setPipeline (pipeline : PipelineHandle)
  | setVertexBuffer (name : String) (buffer : BufferRef)
  | createUniformBuffers (device : Device) (modules : List ShaderModule)
  | bind (layout pool : Handle) (binding : UInt32)
  | release
  | detach

def Belongings.ofDetached (r : Detached) : Belongings :=
  ⟨r.pipeline.toList, r.vertexBuffers, r.uniformBuffers⟩

namespace Custody

variable {σ : Type}

def start (o : ObjectState) (s : σ × Machine) : Custody σ := ⟨o, s, o.held, .none⟩

def after (c : Custody σ) (o : ObjectState) (s : σ × Machine) (came gone : Belongings) : Custody σ :=
  ⟨o, s, c.installed ++ came, c.handedBack ++ gone⟩

def perform (b : SetBackend (σ × Machine)) (c : Custody σ) : Act → Custody σ
  | .setPipeline p =>
    let r := c.object.setPipeline p
    c.after r.1 c.backend ⟨[p], [], []⟩ ⟨r.2.toList, [], []⟩
  | .setVertexBuffer name buffer =>
    let r := c.object.setVertexBuffer name buffer
    c.after r.1 c.backend ⟨[], [buffer], []⟩ ⟨[], r.2.toList, []⟩
  | .createUniformBuffers d modules =>
    match c.object.createUniformBuffers d modules c.backend.2 with
    | (.error _, m) => c.after c.object (c.backend.1, m) .none .none
    | (.ok (o, _), m) =>
      c.after o (c.backend.1, m) ⟨[], [], buffersSince c.backend.2 m⟩ .none
  | .bind layout pool binding =>
    let r := c.object.bindTextures b layout pool binding c.backend
    c.after r.object r.backend .none .none
  | .release =>
    let r := c.object.release b c.backend
    c.after r.object r.backend .none .none
  | .detach =>
    let r := c.object.detach b c.backend
    c.after r.object r.backend .none (match r.result with
      | .error _ => .none
      | .ok taken => .ofDetached taken)

def performAll (b : SetBackend (σ × Machine)) (c : Custody σ) (acts : List Act) : Custody σ :=
  acts.foldl (perform b) c

structure Kept (c : Custody σ) : Prop where
  vertices : c.object.vertexBuffers.Ascending
  uniforms : c.object.uniformBuffers.Ascending
  balance : Alike (c.object.held ++ c.handedBack) c.installed
  distinct : c.installed.uniformBuffers.Nodup
  known : ∀ r ∈ c.installed.uniformBuffers, r < c.backend.2.held.length

section kept

variable {b : SetBackend (σ × Machine)} {c : Custody σ}

theorem Kept.after (kept : Kept c) {o : ObjectState} {s : σ × Machine} {came gone : Belongings}
    (vertices : o.vertexBuffers.Ascending) (uniforms : o.uniformBuffers.Ascending)
    (exchange : Alike (o.held ++ gone) (c.object.held ++ came))
    (grown : c.backend.2.held.length ≤ s.2.held.length)
    (new : came.uniformBuffers.Sublist (buffersSince c.backend.2 s.2)) :
    Kept (c.after o s came gone) where
  vertices := vertices
  uniforms := uniforms
  balance := kept.balance.exchange exchange
  distinct := by
    refine List.nodup_append.mpr ⟨kept.distinct, new.nodup List.nodup_range', ?_⟩
    intro r old r' mem
    have low := kept.known r old
    have high := (List.mem_range'_1.mp (new.subset mem)).1
    exact Nat.ne_of_lt (Nat.lt_of_lt_of_le low high)
  known := by
    intro r mem
    rcases List.mem_append.mp mem with mem | mem
    · have low := kept.known r mem
      exact Nat.lt_of_lt_of_le low grown
    · have below := (List.mem_range'_1.mp (new.subset mem)).2
      rwa [Nat.add_sub_cancel' grown] at below

theorem Kept.rebind (kept : Kept c) {s : σ × Machine} (set : Option BoundSet)
    (same : s.2.held = c.backend.2.held) :
    Kept (c.after { c.object with textureSet := set } s .none .none) :=
  kept.after kept.vertices kept.uniforms (.refl _) (Nat.le_of_eq (by rw [same])) (List.nil_sublist _)

theorem release_held (leaves : b.LeavesBuffers) (o : ObjectState) (s : σ × Machine) :
    (o.release b s).backend.2.held = s.2.held := by
  unfold release
  split
  · rfl
  · exact leaves.free _ _ s

theorem bindTextures_held (leaves : b.LeavesBuffers) (o : ObjectState) (layout pool : Handle)
    (binding : UInt32) (s : σ × Machine) :
    (o.bindTextures b layout pool binding s).backend.2.held = s.2.held := by
  have released := release_held leaves o s
  have allocated : (b.allocate pool layout (o.release b s).backend).2.2.held = s.2.held :=
    (leaves.allocate pool layout _).trans released
  rcases bindTextures_cases b o layout pool binding s with ⟨e, _, eq⟩ | ⟨e, _, eq⟩ | ⟨set, _, eq⟩
  · rw [eq, released]
  · rw [eq]
    exact allocated
  · rw [eq, leaves.write]
    exact allocated

theorem Kept.perform (kept : Kept c) (leaves : b.LeavesBuffers) (a : Act) : Kept (c.perform b a) := by
  cases a with
  | setPipeline p =>
    exact kept.after kept.vertices kept.uniforms (c.object.setPipeline_exchange p) (Nat.le_refl _)
      (List.nil_sublist _)
  | setVertexBuffer name buffer =>
    exact kept.after (kept.vertices.insert name buffer) kept.uniforms
      (setVertexBuffer_exchange kept.vertices name buffer) (Nat.le_refl _) (List.nil_sublist _)
  | createUniformBuffers d modules =>
    obtain ⟨more, longer, _⟩ := c.object.createUniformBuffers_adds_held d modules c.backend.2
    cases run : c.object.createUniformBuffers d modules c.backend.2 with
    | mk result m =>
      rw [run] at longer
      have grown : c.backend.2.held.length ≤ m.held.length := by
        rw [show m.held = _ from longer, List.length_append]
        exact Nat.le_add_right _ _
      cases result with
      | error e =>
        simp only [Custody.perform, run]
        exact kept.after kept.vertices kept.uniforms (.refl _) grown (List.nil_sublist _)
      | ok made =>
        obtain ⟨o', created⟩ := made
        obtain ⟨same, uniforms, exchange⟩ := createUniformBuffers_exchange kept.uniforms run
        simp only [Custody.perform, run]
        exact kept.after (same ▸ kept.vertices) uniforms exchange grown (.refl _)
  | bind layout pool binding =>
    obtain ⟨set, object⟩ := c.object.bindTextures_object b c.backend layout pool binding
    simp only [Custody.perform, object]
    exact kept.rebind set (bindTextures_held leaves _ _ _ _ _)
  | release =>
    simp only [Custody.perform, release_object]
    exact kept.rebind none (release_held leaves _ _)
  | detach =>
    have held : (c.object.detach b c.backend).backend.2.held = c.backend.2.held := by
      rw [detach_backend, release_held leaves]
    rcases c.object.detach_cases b c.backend with ⟨e, result, object⟩ | ⟨result, object⟩
    · simp only [Custody.perform, result, object]
      exact kept.rebind none held
    · simp only [Custody.perform, result, object]
      refine kept.after SortedMap.ascending_empty SortedMap.ascending_empty ?_ (Nat.le_of_eq ?_)
        (List.nil_sublist _)
      · exact ⟨List.perm_append_comm, List.perm_append_comm, List.perm_append_comm⟩
      · rw [held]

theorem Kept.performAll (kept : Kept c) (leaves : b.LeavesBuffers) (acts : List Act) :
    Kept (c.performAll b acts) := by
  induction acts generalizing c with
  | nil => exact kept
  | cons a rest ih => exact ih (kept.perform leaves a)

theorem kept_start {o : ObjectState} {s : σ × Machine} (new : o.held = .none) : Kept (start o s) := by
  refine ⟨?_, ?_, ?_, ?_, ?_⟩
  · exact SortedMap.ascending_of_values_eq_nil (congrArg Belongings.vertexBuffers new)
  · exact SortedMap.ascending_of_values_eq_nil (congrArg Belongings.uniformBuffers new)
  · rw [start, Belongings.append_none]
    exact .refl _
  · rw [start, new]
    exact .nil
  · rw [start, new]
    exact fun r impossible => nomatch impossible

end kept

/-- What was installed, and nothing else, is held or was handed back, each thing as often as it was
installed. A detach that fails hands out nothing and takes nothing but the texture set. -/
structure Conserves (b : SetBackend (σ × Machine)) (c : Custody σ) : Prop where
  balance : Alike (c.object.held ++ c.handedBack) c.installed
  distinct : c.installed.uniformBuffers.Nodup
  refused : ∀ e, (c.object.detach b c.backend).result = .error e →
    (c.perform b .detach).handedBack = c.handedBack ∧
      (c.perform b .detach).object = { c.object with textureSet := none }

theorem performAll_conserves {b : SetBackend (σ × Machine)} {o : ObjectState} {s : σ × Machine}
    (new : o.held = .none) (leaves : b.LeavesBuffers) (acts : List Act) :
    Conserves b ((start o s).performAll b acts) := by
  have kept := (kept_start (s := s) new).performAll leaves acts
  generalize (start o s).performAll b acts = c at kept
  refine ⟨kept.balance, kept.distinct, ?_⟩
  intro e refused
  rcases c.object.detach_cases b c.backend with ⟨f, result, object⟩ | ⟨result, _⟩
  · simp only [perform, after, result, object, Belongings.append_none]
    trivial
  · rw [refused] at result
    cases result

namespace Refused

open TwoStages (device vertexStage fragmentStage)

def fog : Spec := ⟨"Fog", 0, 2, .uniformBuffer, [⟨"density", 0, 0, 4⟩]⟩

def foggyStage : ShaderModule := { fragmentStage with specs := ⟨[("Fog", fog)]⟩ }

-- the driver does not take the set back the first time, and gives no second buffer
def machine : Machine :=
  .start ⟨[], ⟨0xFFFFFFFF, 1, 0⟩, []⟩ (.ofList [(.freeSets, 1, -2), (.createBuffer, 2, -2)])

def acts : List Act :=
  [.setPipeline ⟨11, 12⟩, .setVertexBuffer "near" 70, .setVertexBuffer "near" 71,
    .createUniformBuffers device [vertexStage, fragmentStage], .bind 7 1 0, .detach,
    .setPipeline ⟨13, 14⟩, .createUniformBuffers device [foggyStage], .detach,
    .setVertexBuffer "far" 72, .detach, .detach]

def ended : Custody Unit := (start {} ((), machine)).performAll deviceBackend.onMachine acts

end Refused

open Refused in
theorem performAll_conserves_refused :
    ({} : ObjectState).held = .none ∧ (deviceBackend.onMachine (σ := Unit)).LeavesBuffers ∧
      ended.handedBack = ⟨[⟨11, 12⟩, ⟨13, 14⟩], [70, 71, 72], [0]⟩ ∧ ended.object.held = .none ∧
      Conserves deviceBackend.onMachine ended :=
  ⟨rfl, deviceBackend_leavesBuffers, rfl, rfl,
    performAll_conserves rfl deviceBackend_leavesBuffers acts⟩

end Custody

end ObjectState
end SceneGpu
