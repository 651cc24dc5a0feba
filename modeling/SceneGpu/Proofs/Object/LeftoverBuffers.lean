import SceneGpu.Gpu.Session
import SceneGpu.Proofs.Collection.Sequence
import SceneGpu.Proofs.Gpu.Holdings
import SceneGpu.Proofs.Object.Custody
/-!
What is left when the uniform buffers of some modules cannot all be made. The object stays as it was,
and nothing is left of the buffer that failed; but those made before it stay alive, and nobody has them.
-/
namespace SceneGpu.ObjectState

open Gpu
open Gpu.Buffer (Making Undone)
open Gpu.Action (Ends)

def lacking (buffers : BufferMap) (specs : List Spec) : List Spec :=
  specs.filter fun s => !buffers.contains s.name

theorem lacking_insert (buffers : BufferMap) (r : BufferRef) {name : String} {specs : List Spec}
    (other : name ∉ specs.map Spec.name) :
    lacking (buffers.insert name r) specs = lacking buffers specs := by
  refine List.filter_congr fun s mem => ?_
  have ne : s.name ≠ name := fun same => other (same ▸ List.mem_map_of_mem mem)
  rw [SortedMap.contains, SortedMap.contains, SortedMap.get?_insert_of_ne _ _ ne]

structure Left (specs : List Spec) (s t : Storage) (made : List Call) (leftover : List DriverBuffer) :
    Prop where
  buffers : t.buffers = s.buffers ++ leftover
  sizes : leftover.map DriverBuffer.size = specs.map fun spec => alignedSize spec.size
  created : created made = leftover.map fun b => .buffer b.handle
  destroyed : destroyed made = []
  handles : s.nextHandle ≤ t.nextHandle
  below : ∀ b ∈ leftover, b.handle < t.nextHandle

namespace Left

theorem nil (s : Storage) : Left [] s s [] [] where
  buffers := (List.append_nil _).symm
  sizes := rfl
  created := rfl
  destroyed := rfl
  handles := Nat.le_refl _
  below := List.forall_mem_nil _

theorem cons {spec : Spec} {specs : List Spec} {s t : Storage} {made : List Call}
    {leftover : List DriverBuffer} {usage : UInt32} {length : Nat} {bytes : Nat → UInt8}
    (left : Left specs ((s.place (alignedSize spec.size) length bytes).hold
      (s.newest (.uniform spec) (alignedSize spec.size) length)) t made leftover) :
    Left (spec :: specs) s t
      ([.createBuffer (alignedSize spec.size) usage s.nextHandle, .bindMemory s.nextHandle] ++ made)
      (⟨s.nextHandle, alignedSize spec.size, some (s.next length)⟩ :: leftover) where
  buffers := by
    rw [left.buffers]
    exact List.append_assoc s.buffers _ leftover
  sizes := congrArg (_ :: ·) left.sizes
  created := by
    rw [created_append, left.created]
    rfl
  destroyed := by
    rw [destroyed_append, left.destroyed]
    rfl
  handles := Nat.le_of_succ_le left.handles
  below := List.forall_mem_cons.mpr ⟨left.handles, left.below⟩

end Left

inductive Adding (specs : List Spec) (s : Storage) :
    Except Failure BufferMap → Storage → List Call → Prop
  | all (buffers : BufferMap) {t : Storage} {made : List Call} {leftover : List DriverBuffer}
      (left : Left specs s t made leftover) : Adding specs s (.ok buffers) t made
  | stopped (e : Failure) {done rest : List Spec} {last : Spec} (split : specs = done ++ last :: rest)
      {t u : Storage} {made more : List Call} {leftover : List DriverBuffer}
      (left : Left done s t made leftover) (undone : Undone t u more) :
      Adding specs s (.error e) u (made ++ more)

theorem Adding.cons {spec : Spec} {specs : List Spec} {s t : Storage} {made : List Call}
    {r : Except Failure BufferMap} {usage : UInt32} {length : Nat} {bytes : Nat → UInt8}
    (adding : Adding specs ((s.place (alignedSize spec.size) length bytes).hold
      (s.newest (.uniform spec) (alignedSize spec.size) length)) r t made) :
    Adding (spec :: specs) s r t
      ([.createBuffer (alignedSize spec.size) usage s.nextHandle, .bindMemory s.nextHandle] ++ made) := by
  cases adding with
  | all buffers left => exact .all buffers left.cons
  | stopped e split left undone =>
    rw [← List.append_assoc]
    exact .stopped e (congrArg (spec :: ·) split) left.cons undone

theorem addUniformBuffers_ends (d : Device) (specs : List Spec) (distinct : (specs.map Spec.name).Nodup)
    (buffers : BufferMap) {m : Machine} (numbered : m.storage.Numbered) :
    Ends (addUniformBuffers d specs buffers) m (Adding (lacking buffers specs) m.storage) := by
  induction specs generalizing buffers m with
  | nil => exact .pure (.all buffers (.nil _))
  | cons spec rest ih =>
    obtain ⟨other, distinct⟩ := List.nodup_cons.mp distinct
    rw [addUniformBuffers]
    split
    · rename_i there
      have skipped : lacking buffers (spec :: rest) = lacking buffers rest :=
        List.filter_cons_of_neg (by simp [there])
      rw [skipped]
      exact ih distinct buffers numbered
    · rename_i absent
      have first : lacking buffers (spec :: rest) = spec :: lacking buffers rest :=
        List.filter_cons_of_pos (by simp [absent])
      rw [first]
      refine (Buffer.fromSpec_ends d spec numbered).bind ?_ ?_
      · rintro e t made ⟨⟩
        exact .stopped e (List.nil_append _).symm (.nil _) ‹_›
      · intro r m' made making
        generalize left : m'.storage = t at making
        cases making with
        | made usage length bytes =>
          have placed := numbered.place (alignedSize spec.size) length bytes
          refine (ih distinct (buffers.insert spec.name _) (m := m') ?_).mono ?_
          · rw [left]
            exact ⟨placed.handles, placed.allocations⟩
          · -- no later spec has the name, so the buffer that is there now does not stand in for one
            intro r t made adding
            rw [lacking_insert buffers _ other, left] at adding
            exact adding.cons

theorem createUniformBuffers_ends (o : ObjectState) (d : Device) (modules : List ShaderModule)
    {m : Machine} (numbered : m.storage.Numbered) :
    Ends (o.createUniformBuffers d modules) m fun r t made => ∀ e, r = .error e →
      Adding (lacking o.uniformBuffers (uniformSpecs modules)) m.storage (.error e) t made := by
  refine (addUniformBuffers_ends d (uniformSpecs modules) (nodup_firstsOn _ _) o.uniformBuffers
    numbered).bind ?_ ?_
  · rintro e t made adding _ ⟨⟩
    exact adding
  · intro buffers m' made adding
    exact .pure fun e impossible => nomatch impossible

/-- What a failure has left of the buffers that were created: one for each of the specs done so far
is alive, and the others have been destroyed. -/
structure Leftover (done : List Spec) (made : List Call) (leftover : List DriverBuffer) : Prop where
  sizes : leftover.map DriverBuffer.size = done.map fun spec => alignedSize spec.size
  created : (created made).Perm (leftover.map (fun b => .buffer b.handle) ++ destroyed made)
  alive : ∀ b ∈ leftover, .buffer b.handle ∉ destroyed made

theorem Leftover.all_destroyed_iff {done : List Spec} {made : List Call} {leftover : List DriverBuffer}
    (left : Leftover done made leftover) : (∀ x ∈ Gpu.created made, x ∈ destroyed made) ↔ done = [] := by
  have lengths : leftover.length = done.length := by simpa using congrArg List.length left.sizes
  rw [← List.length_eq_zero_iff, ← lengths, List.length_eq_zero_iff]
  constructor
  · intro all
    refine List.eq_nil_iff_forall_not_mem.mpr fun b mem => left.alive b mem (all _ ?_)
    exact left.created.mem_iff.mpr (List.mem_append_left _ (List.mem_map_of_mem mem))
  · rintro rfl x mem
    exact left.created.mem_iff.mp mem

theorem Left.leftover {done : List Spec} {s t u : Storage} {made more : List Call}
    {leftover : List DriverBuffer} (left : Left done s t made leftover) (undone : Undone t u more) :
    Leftover done (made ++ more) leftover where
  sizes := left.sizes
  created := by
    rw [created_append, destroyed_append, left.created, left.destroyed, List.nil_append]
    exact undone.balanced.all.symm.append_left _
  alive := by
    intro b mem gone
    rw [destroyed_append, left.destroyed, List.nil_append, undone.balanced.all.mem_iff] at gone
    -- what was destroyed was created after all that is left
    have same : b.handle = t.nextHandle := Object.buffer.inj (undone.one _ gone)
    exact Nat.lt_irrefl _ (same ▸ left.below b mem)

theorem createUniformBuffers_leaves_over {s s' : Session} {hardware : Hardware} {plan : Plan}
    {acts : List Machine.Act} {modules : List ShaderModule} {e : Failure}
    (reached : s.machine = (Machine.start hardware plan).performAll acts)
    (failed : s.createUniformBuffers modules = (.error e, s')) :
    s'.object = s.object ∧ ∃ done last rest made leftover,
      lacking s.object.uniformBuffers (uniformSpecs modules) = done ++ last :: rest ∧
      s'.machine.calls = s.machine.calls ++ made ∧
      s'.machine.buffers = s.machine.buffers ++ leftover ∧ Leftover done made leftover ∧
      ((∀ x ∈ created made, x ∈ destroyed made) ↔ done = []) := by
  have numbered : s.machine.storage.Numbered := by
    rw [reached]
    exact (Machine.sound_performAll (Machine.sound_start hardware plan) acts).numbered
  unfold Session.createUniformBuffers Session.run at failed
  cases device : s.device with
  | none => simp [device] at failed
  | some d =>
    obtain ⟨made, calls, ends⟩ := createUniformBuffers_ends s.object d modules numbered
    cases run : s.object.createUniformBuffers d modules s.machine with
    | mk result m =>
      rw [run] at calls ends
      simp only [device, run] at failed
      cases result with
      | ok made => cases failed
      | error f =>
        cases failed
        refine ⟨rfl, ?_⟩
        have adding := ends e rfl
        generalize left : m.storage = t at adding
        cases adding with
        | stopped _ split there undone =>
          have leftover := there.leftover undone
          refine ⟨_, _, _, _, _, split, calls, ?_, leftover, leftover.all_destroyed_iff⟩
          exact (congrArg Storage.buffers left).trans (undone.same.buffers.trans there.buffers)

namespace SecondRefused

open TwoStages (device vertexStage)
open Custody.Refused (foggyStage)

-- the driver gives the first buffer and not the second
def session : Session :=
  { Session.start (Machine.start ⟨[], ⟨0xFFFFFFFF, 1, 0⟩, []⟩ (.ofList [(.createBuffer, 2, -2)])) {} with
    device := some device }

def modules : List ShaderModule := [vertexStage, foggyStage]

def ended : Except Failure (Option Nat) × Session := session.createUniformBuffers modules

def failure : Failure := ⟨["Failed to create buffer Fog"], .driver (-2)⟩

theorem ended_eq : ended = (.error failure, ended.2) := rfl

theorem ended_calls : ended.2.machine.calls =
    [.createBuffer 16 16 1, .bindMemory 1, .failed .createBuffer (-2)] := rfl

end SecondRefused

open SecondRefused

theorem createUniformBuffers_leaves_over_first :
    ended = (.error failure, ended.2) ∧ ended.2.object = session.object ∧
      ended.2.machine.buffers = [⟨1, 16, some ⟨0, 16⟩⟩] ∧
      ∃ done last rest made leftover,
        lacking session.object.uniformBuffers (uniformSpecs modules) = done ++ last :: rest ∧
        ended.2.machine.calls = session.machine.calls ++ made ∧
        ended.2.machine.buffers = session.machine.buffers ++ leftover ∧
        Leftover done made leftover ∧
        ((∀ x ∈ created made, x ∈ destroyed made) ↔ done = []) := by
  have reached : session.machine = (Machine.start _ _).performAll [] := rfl
  obtain ⟨object, left⟩ := createUniformBuffers_leaves_over reached ended_eq
  exact ⟨ended_eq, object, rfl, left⟩

/-- The buffer of the first block is not destroyed when there is none for the second. -/
theorem createUniformBuffers_leaks :
    ¬ ∀ (s s' : Session) (modules : List ShaderModule) (e : Failure),
        s.createUniformBuffers modules = (.error e, s') →
          s'.object.uniformBuffers = s.object.uniformBuffers ∧
            ∃ made, s'.machine.calls = s.machine.calls ++ made ∧
              ∀ x ∈ created made, x ∈ destroyed made := by
  intro whole
  obtain ⟨_, made, calls, all⟩ := whole _ _ _ _ ended_eq
  rw [ended_calls] at calls
  obtain rfl := calls
  exact absurd (all (.buffer 1) (by decide)) (by decide)

end SceneGpu.ObjectState
