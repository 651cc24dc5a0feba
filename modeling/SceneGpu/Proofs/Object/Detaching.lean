import Mathlib.Data.List.Induction
import Mathlib.Data.List.Nodup
import Mathlib.Data.List.Perm.Basic
import SceneGpu.Object.State
import SceneGpu.Proofs.Collection.Lists
import SceneGpu.Proofs.Collection.SortedMap
/-!
An object that is detached while others publish vertex buffers. The detach reads the map in one step
and empties it in a later one, so what is published in between is in neither.
-/
namespace SceneGpu.ObjectState

open Gpu

variable {σ : Type}

inductive Detaching where
  | waiting
  | released
  | loaded (found : List BufferRef)
  | emptied (found : List BufferRef)
  | done (result : Except Failure Detached)

/-- What was replaced was handed back to those who published; what was overwritten is what stood in
the map when the detach emptied it. -/
structure Detachment (σ : Type) where
  object : ObjectState
  backend : σ
  detaching : Detaching
  replaced : List BufferRef
  overwritten : List BufferRef

inductive Move where
  | publish (name : String) (buffer : BufferRef)
  | detach

namespace Move

def buffer? : Move → Option BufferRef
  | .publish _ buffer => some buffer
  | .detach => none

end Move

def published (moves : List Move) : List BufferRef := moves.filterMap Move.buffer?

namespace Detachment

def start (o : ObjectState) (s : σ) : Detachment σ := ⟨o, s, .waiting, [], []⟩

def advance (b : SetBackend σ) (d : Detachment σ) : Detachment σ :=
  match d.detaching with
  | .waiting =>
    let r := d.object.release b d.backend
    { d with
      object := r.object
      backend := r.backend
      detaching := match r.result with
        | .error e => .done (.error e)
        | .ok () => .released }
  | .released => { d with detaching := .loaded d.object.vertexBuffers.values }
  | .loaded found =>
    { d with
      object := { d.object with vertexBuffers := .empty }
      detaching := .emptied found
      overwritten := d.object.vertexBuffers.values }
  | .emptied found =>
    { d with
      object := { d.object with initialized := false, pipeline := none, uniformBuffers := .empty }
      detaching := .done (.ok ⟨d.object.pipeline, found, d.object.uniformBuffers.values⟩) }
  | .done _ => d

def move (b : SetBackend σ) (d : Detachment σ) : Move → Detachment σ
  | .publish name buffer =>
    let r := d.object.setVertexBuffer name buffer
    { d with object := r.1, replaced := d.replaced ++ r.2.toList }
  | .detach => d.advance b

def moveAll (b : SetBackend σ) (d : Detachment σ) (moves : List Move) : Detachment σ :=
  moves.foldl (move b) d

theorem moveAll_concat (b : SetBackend σ) (d : Detachment σ) (moves : List Move) (m : Move) :
    d.moveAll b (moves ++ [m]) = (d.moveAll b moves).move b m := by
  simp [moveAll]

theorem advance_alone (b : SetBackend σ) (o : ObjectState) (s : σ) :
    let d := (start o s).moveAll b [.detach, .detach, .detach, .detach]
    d.object = (o.detach b s).object ∧ d.backend = (o.detach b s).backend ∧
      d.detaching = .done (o.detach b s).result := by
  unfold ObjectState.detach
  cases released : (o.release b s).result with
  | error e => simp [moveAll, move, advance, start, released]
  | ok u => simp [moveAll, move, advance, start, released]

def taken (d : Detachment σ) : List BufferRef :=
  match d.detaching with
  | .done (.ok r) => r.vertexBuffers
  | _ => []

def InOnePlace (d : Detachment σ) (buffer : BufferRef) : Prop :=
  (d.object.vertexBuffers.values ++ d.replaced ++ d.taken).count buffer = 1

instance (d : Detachment σ) (buffer : BufferRef) : Decidable (d.InOnePlace buffer) :=
  inferInstanceAs (Decidable (_ = 1))

/-- Nothing is published between the detach's reading of the map and its emptying. -/
def Undisturbed (b : SetBackend σ) (d : Detachment σ) (moves : List Move) : Prop :=
  ∀ earlier name buffer later, moves = earlier ++ .publish name buffer :: later →
    ∀ found, (d.moveAll b earlier).detaching ≠ .loaded found

section Undisturbed

variable {b : SetBackend σ} {d : Detachment σ} {moves : List Move}

theorem undisturbed_nil : Undisturbed b d [] := by
  intro earlier name buffer later eq
  simp at eq

theorem undisturbed_concat {m : Move} : Undisturbed b d (moves ++ [m]) ↔
    Undisturbed b d moves ∧ ∀ name buffer, m = .publish name buffer →
      ∀ found, (d.moveAll b moves).detaching ≠ .loaded found := by
  constructor
  · intro calm
    refine ⟨?_, ?_⟩
    · rintro earlier name buffer later rfl
      exact calm earlier name buffer (later ++ [m]) (by simp)
    · rintro name buffer rfl
      exact calm moves name buffer [] rfl
  · rintro ⟨calm, last⟩ earlier name buffer later eq
    rcases concat_eq_split eq with ⟨rfl, same, _⟩ | ⟨front, whole, _⟩
    · exact last name buffer same.symm
    · exact calm earlier name buffer front whole

theorem undisturbed_step : Undisturbed b d (moves ++ [.detach]) ↔ Undisturbed b d moves := by
  rw [undisturbed_concat]
  constructor
  · exact And.left
  · intro calm
    refine ⟨calm, ?_⟩
    intro name buffer impossible
    cases impossible

theorem undisturbed_publish {name : String} {buffer : BufferRef}
    (outside : ∀ found, (d.moveAll b moves).detaching ≠ .loaded found) :
    Undisturbed b d (moves ++ [.publish name buffer]) ↔ Undisturbed b d moves := by
  rw [undisturbed_concat]
  exact ⟨And.left, fun calm => ⟨calm, fun _ _ _ => outside⟩⟩

end Undisturbed

structure Whole (known : List BufferRef) (d : Detachment σ) : Prop where
  ascending : d.object.vertexBuffers.Ascending
  all : (d.object.vertexBuffers.values ++ d.replaced ++ d.overwritten).Perm known

section Whole

variable {b : SetBackend σ} {known : List BufferRef} {d : Detachment σ}

theorem release_vertexBuffers (b : SetBackend σ) (o : ObjectState) (s : σ) :
    (o.release b s).object.vertexBuffers = o.vertexBuffers := by
  unfold ObjectState.release
  cases o.textureSet <;> rfl

theorem Whole.publish (whole : Whole known d) (name : String) (buffer : BufferRef) :
    Whole (known ++ [buffer]) (d.move b (.publish name buffer)) where
  ascending := whole.ascending.insert name buffer
  all := by
    have exchanged := whole.ascending.values_insert name buffer
    rw [List.perm_iff_count] at exchanged ⊢
    intro a
    have before := whole.all.count_eq a
    have now := exchanged a
    simp only [move, setVertexBuffer, List.count_append] at before now ⊢
    omega

theorem Whole.advance (whole : Whole known d) (nothing : ∀ found, d.detaching = .loaded found →
    d.overwritten = []) : Whole known (d.advance b) := by
  obtain ⟨ascending, all⟩ := whole
  unfold Detachment.advance
  split
  · exact ⟨by simpa [release_vertexBuffers] using ascending,
      by simpa [release_vertexBuffers] using all⟩
  · exact ⟨ascending, all⟩
  · rename_i found phase
    rw [nothing found phase, List.append_nil] at all
    refine ⟨SortedMap.ascending_empty, ?_⟩
    exact List.perm_append_comm.trans all
  · exact ⟨ascending, all⟩
  · exact ⟨ascending, all⟩

theorem Whole.once (whole : Whole known d) (fresh : known.Nodup) {buffer : BufferRef}
    (mem : buffer ∈ known) :
    (d.object.vertexBuffers.values ++ d.replaced ++ d.overwritten).count buffer = 1 := by
  rw [whole.all.count_eq, List.count_eq_one_of_mem fresh mem]

end Whole

def Settles (calm : Prop) (found now : List BufferRef) : Prop :=
  (calm ∧ now = found) ∨ (¬ calm ∧ ∃ buffer ∈ now, buffer ∉ found)

/-- How the detach stands: it has not read the map (or never will), it has not emptied it yet, or it
has done both. -/
inductive Standing (known : List BufferRef) (calm : Prop) (d : Detachment σ) : Prop
  | before (phase : d.detaching = .waiting ∨ d.detaching = .released ∨
        ∃ f, d.detaching = .done (.error f))
      (nothing : d.overwritten = []) (still : calm)
  | between (found : List BufferRef) (phase : d.detaching = .loaded found)
      (nothing : d.overwritten = []) (old : found ⊆ known)
      (settles : Settles calm found d.object.vertexBuffers.values)
  | behind (found : List BufferRef)
      (phase : d.detaching = .emptied found ∨
        ∃ pipeline uniforms, d.detaching = .done (.ok ⟨pipeline, found, uniforms⟩))
      (settles : Settles calm found d.overwritten)

section Standing

variable {b : SetBackend σ} {known : List BufferRef} {calm : Prop} {d : Detachment σ}

theorem Standing.nothing_loaded (standing : Standing known calm d) {found : List BufferRef}
    (phase : d.detaching = .loaded found) : d.overwritten = [] := by
  cases standing with
  | before _ nothing _ => exact nothing
  | between _ _ nothing _ _ => exact nothing
  | behind _ other _ => simp [phase] at other

theorem Standing.advance (standing : Standing known calm d)
    (seen : d.object.vertexBuffers.values ⊆ known) : Standing known calm (d.advance b) := by
  cases standing with
  | before phase nothing still =>
    rcases phase with phase | phase | ⟨f, phase⟩
    · cases released : (d.object.release b d.backend).result with
      | error f =>
        refine .before (.inr (.inr ⟨f, ?_⟩)) ?_ still
        · simp [Detachment.advance, phase, released]
        · simpa [Detachment.advance, phase] using nothing
      | ok u =>
        refine .before (.inr (.inl ?_)) ?_ still
        · simp [Detachment.advance, phase, released]
        · simpa [Detachment.advance, phase] using nothing
    · have next : d.advance b = { d with detaching := .loaded d.object.vertexBuffers.values } := by
        simp [Detachment.advance, phase]
      rw [next]
      exact .between _ rfl nothing seen (.inl ⟨still, rfl⟩)
    · have next : d.advance b = d := by simp [Detachment.advance, phase]
      rw [next]
      exact .before (.inr (.inr ⟨f, phase⟩)) nothing still
  | between found phase nothing old settles =>
    refine .behind found (.inl ?_) ?_
    · simp [Detachment.advance, phase]
    · simpa [Detachment.advance, phase] using settles
  | behind found phase settles =>
    rcases phase with phase | ⟨pipeline, uniforms, phase⟩
    · refine .behind found (.inr ⟨d.object.pipeline, d.object.uniformBuffers.values, ?_⟩) ?_
      · simp [Detachment.advance, phase]
      · simpa [Detachment.advance, phase] using settles
    · have next : d.advance b = d := by simp [Detachment.advance, phase]
      rw [next]
      exact .behind found (.inr ⟨pipeline, uniforms, phase⟩) settles

theorem Standing.publish {name : String} {buffer : BufferRef} {still : Prop}
    (standing : Standing known calm d) (new : buffer ∉ known)
    (outside : (∀ found, d.detaching ≠ .loaded found) → (still ↔ calm))
    (inside : ∀ found, d.detaching = .loaded found → ¬ still) :
    Standing (known ++ [buffer]) still (d.move b (.publish name buffer)) := by
  cases standing with
  | before phase nothing calm =>
    refine .before phase nothing ((outside ?_).mpr calm)
    intro found loaded
    simp [loaded] at phase
  | between found phase nothing old settles =>
    have older := List.subset_append_of_subset_left [buffer] old
    refine .between found phase nothing older (.inr ⟨?_, buffer, ?_, ?_⟩)
    · exact inside found phase
    · exact SortedMap.mem_values_insert _ _ _
    · exact fun mem => new (old mem)
  | behind found phase settles =>
    have same : still ↔ calm := by
      apply outside
      intro found loaded
      simp [loaded] at phase
    rw [propext same]
    exact .behind found phase settles

theorem Standing.settles {result : Except Failure Detached} (standing : Standing known calm d)
    (finished : d.detaching = .done result) : Settles calm d.taken d.overwritten := by
  cases standing with
  | before phase nothing still =>
    have none_taken : d.taken = [] := by
      rcases phase with phase | phase | ⟨f, phase⟩ <;> simp [taken, phase]
    rw [none_taken, nothing]
    exact .inl ⟨still, rfl⟩
  | between found phase _ _ _ =>
    rw [phase] at finished
    cases finished
  | behind found phase settles =>
    rcases phase with phase | ⟨pipeline, uniforms, phase⟩
    · rw [phase] at finished
      cases finished
    · have found_taken : d.taken = found := by simp [taken, phase]
      rw [found_taken]
      exact settles

end Standing

section run

variable {b : SetBackend σ} {o : ObjectState} {s : σ}

theorem moveAll_tracks (moves : List Move) (ascending : o.vertexBuffers.Ascending)
    (fresh : (o.vertexBuffers.values ++ published moves).Nodup) :
    Whole (o.vertexBuffers.values ++ published moves) ((start o s).moveAll b moves) ∧
      Standing (o.vertexBuffers.values ++ published moves) (Undisturbed b (start o s) moves)
        ((start o s).moveAll b moves) := by
  induction moves using List.reverseRecOn with
  | nil =>
    refine ⟨⟨ascending, ?_⟩, .before (.inl rfl) rfl undisturbed_nil⟩
    simp [moveAll, start, published]
  | append_singleton front m ih =>
    rw [moveAll_concat]
    cases m with
    | detach =>
      have same : published (front ++ [.detach]) = published front := by
        simp [published, Move.buffer?]
      rw [same] at fresh ⊢
      obtain ⟨whole, standing⟩ := ih fresh
      refine ⟨whole.advance fun found => standing.nothing_loaded, ?_⟩
      have seen : ((start o s).moveAll b front).object.vertexBuffers.values ⊆
          o.vertexBuffers.values ++ published front := by
        intro buffer mem
        exact whole.all.subset (by simp [mem])
      rw [undisturbed_step]
      exact standing.advance seen
    | publish name buffer =>
      have more : o.vertexBuffers.values ++ published (front ++ [.publish name buffer]) =
          (o.vertexBuffers.values ++ published front) ++ [buffer] := by
        simp [published, Move.buffer?]
      rw [more] at fresh ⊢
      obtain ⟨earlier, _, apart⟩ := List.nodup_append.mp fresh
      obtain ⟨whole, standing⟩ := ih earlier
      refine ⟨whole.publish name buffer, standing.publish ?_ undisturbed_publish ?_⟩
      · intro mem
        exact apart buffer mem buffer List.mem_cons_self rfl
      · intro found loaded calm
        exact (undisturbed_concat.mp calm).2 name buffer rfl found loaded

/-- Once all have finished, every buffer that was ever published is in exactly one place if, and only
if, none was published between the detach's reading of the map and its emptying. -/
theorem detach_conserves_iff {moves : List Move} {result : Except Failure Detached}
    (ascending : o.vertexBuffers.Ascending)
    (fresh : (o.vertexBuffers.values ++ published moves).Nodup)
    (finished : ((start o s).moveAll b moves).detaching = .done result) :
    (∀ buffer ∈ o.vertexBuffers.values ++ published moves,
      ((start o s).moveAll b moves).InOnePlace buffer) ↔ Undisturbed b (start o s) moves := by
  obtain ⟨whole, standing⟩ := moveAll_tracks (b := b) (s := s) moves ascending fresh
  generalize (start o s).moveAll b moves = d at finished whole standing ⊢
  rcases standing.settles finished with ⟨calm, same⟩ | ⟨disturbed, buffer, overwritten, unseen⟩
  · refine ⟨fun _ => calm, fun _ buffer mem => ?_⟩
    have here := whole.once fresh mem
    rw [same] at here
    exact here
  · -- what was overwritten unseen is nowhere
    have known := whole.all.subset (List.mem_append_right _ overwritten)
    have here := whole.once fresh known
    have there := List.count_pos_iff.mpr overwritten
    have absent := List.count_eq_zero.mpr unseen
    constructor
    · intro conserved
      have place := conserved buffer known
      rw [InOnePlace] at place
      simp only [List.count_append] at here place
      omega
    · intro calm
      exact absurd calm disturbed

end run

namespace Interleaved

def ended (moves : List Move) : Detachment SimulatedPool :=
  (start {} .empty).moveAll SimulatedPool.backend moves

-- one buffer comes before the map is read, one after it was emptied, and a last one replaces that
def around : List Move := [.publish "near" 0, .detach, .publish "far" 1, .detach, .detach,
  .publish "near" 2, .detach, .publish "near" 3]

-- the second buffer comes after the map was read and before it is emptied
def lost : List Move :=
  [.publish "near" 0, .detach, .detach, .publish "far" 1, .detach, .detach]

-- the same, under the name of the first one, which is handed back and yet taken out
def doubled : List Move :=
  [.publish "near" 0, .detach, .detach, .publish "near" 1, .detach, .detach]

end Interleaved

open Interleaved

theorem detach_conserves_around :
    ({} : ObjectState).vertexBuffers.Ascending ∧
      (({} : ObjectState).vertexBuffers.values ++ published around).Nodup ∧
      (ended around).detaching = .done (.ok ⟨none, [1, 0], []⟩) ∧
      (∀ buffer ∈ published around, (ended around).InOnePlace buffer) ∧
      Undisturbed SimulatedPool.backend (start {} .empty) around := by
  have distinct : (({} : ObjectState).vertexBuffers.values ++ published around).Nodup := by decide
  have placed : ∀ buffer ∈ published around, (ended around).InOnePlace buffer := by decide
  exact ⟨SortedMap.ascending_empty, distinct, rfl, placed,
    (detach_conserves_iff SortedMap.ascending_empty distinct rfl).mp placed⟩

theorem published_between_lost :
    (ended lost).detaching = .done (.ok ⟨none, [0], []⟩) ∧ 1 ∈ published lost ∧
      (ended lost).object.vertexBuffers.values = [] ∧ (ended lost).replaced = [] ∧
      ¬ (ended lost).InOnePlace 1 ∧
      (ended doubled).detaching = .done (.ok ⟨none, [0], []⟩) ∧ 0 ∈ published doubled ∧
      (ended doubled).replaced = [0] ∧ ¬ (ended doubled).InOnePlace 0 := by
  refine ⟨rfl, ?_, rfl, rfl, ?_, rfl, ?_, rfl, ?_⟩
  all_goals decide

end Detachment
end SceneGpu.ObjectState
