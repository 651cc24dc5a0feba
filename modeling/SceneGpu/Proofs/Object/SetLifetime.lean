import SceneGpu.Object.State
import Mathlib.Data.List.Induction
import SceneGpu.Proofs.Collection.Lists
/-!
The life of an object's texture set. The calls that reach the backend are written down beside its
state, and what is live is read off them: nothing, or the one set that the object has recorded.
-/
namespace SceneGpu

open Gpu

inductive SetCall where
  | allocated (bound : BoundSet)
  | notAllocated (pool : Handle)
  | freed (bound : BoundSet)
  | notFreed (bound : BoundSet)
  | written (set : Handle)
deriving DecidableEq, Repr

namespace SetCall

def ofAllocation (pool : Handle) : Except Failure Handle → SetCall
  | .ok set => .allocated ⟨set, pool⟩
  | .error _ => .notAllocated pool

def ofFree (bound : BoundSet) : Except Failure Unit → SetCall
  | .ok _ => .freed bound
  | .error _ => .notFreed bound

/-- A set ends its life in the pool it came from, and in no other. -/
def after (live : List BoundSet) : SetCall → List BoundSet
  | .allocated bound => live ++ [bound]
  | .freed bound => live.erase bound
  | .notAllocated _ => live
  | .notFreed _ => live
  | .written _ => live

def live (calls : List SetCall) : List BoundSet := calls.foldl after []

/-- At no time more than one set is live, and what is freed is live, in the pool it is freed to. -/
structure Orderly (calls : List SetCall) : Prop where
  single : ∀ earlier, earlier <+: calls → (live earlier).length ≤ 1
  own : ∀ earlier bound later, calls = earlier ++ .freed bound :: later → bound ∈ live earlier

theorem live_concat (calls : List SetCall) (c : SetCall) : live (calls ++ [c]) = after (live calls) c := by
  simp [live]

theorem orderly_nil : Orderly [] where
  single := by
    intro earlier first
    rw [List.prefix_nil.mp first]
    exact Nat.zero_le 1
  own := by
    intro earlier bound later eq
    simp at eq

theorem Orderly.concat {calls : List SetCall} {c : SetCall} (orderly : Orderly calls)
    (few : (live (calls ++ [c])).length ≤ 1) (owned : ∀ bound, c = .freed bound → bound ∈ live calls) :
    Orderly (calls ++ [c]) where
  single := by
    intro earlier first
    rcases List.prefix_concat_iff.mp first with rfl | first
    · exact few
    · exact orderly.single earlier first
  own := by
    intro earlier bound later eq
    rcases concat_eq_split eq with ⟨rfl, same, _⟩ | ⟨front, whole, _⟩
    · exact owned bound same.symm
    · exact orderly.own earlier bound front whole

theorem Orderly.quiet {calls : List SetCall} {c : SetCall} (orderly : Orderly calls)
    (still : after (live calls) c = live calls) (plain : ∀ bound, c ≠ .freed bound) :
    Orderly (calls ++ [c]) := by
  refine orderly.concat ?_ fun bound eq => absurd eq (plain bound)
  rw [live_concat, still]
  exact orderly.single calls (List.prefix_refl _)

theorem mem_live_append {earlier more : List SetCall} {bound : BoundSet}
    (mem : bound ∈ live (earlier ++ more)) : bound ∈ live earlier ∨ .allocated bound ∈ more := by
  induction more using List.reverseRecOn with
  | nil => exact .inl (by simpa using mem)
  | append_singleton front c ih =>
    rw [← List.append_assoc, live_concat] at mem
    have kept : bound ∈ live (earlier ++ front) → bound ∈ live earlier ∨ .allocated bound ∈ front ++ [c] :=
      fun mem => (ih mem).imp_right (List.mem_append_left _)
    cases c with
    | allocated other =>
      rcases List.mem_append.mp mem with mem | mem
      · exact kept mem
      · obtain rfl := List.mem_singleton.mp mem
        exact .inr (by simp)
    | freed other => exact kept (List.mem_of_mem_erase mem)
    | notAllocated pool => exact kept mem
    | notFreed other => exact kept mem
    | written set => exact kept mem

theorem Orderly.freed_once {earlier middle later : List SetCall} {first second : BoundSet}
    (orderly : Orderly (earlier ++ .freed first :: (middle ++ .freed second :: later))) :
    .allocated second ∈ middle := by
  have mem : first ∈ live earlier := orderly.own earlier first _ rfl
  have few := orderly.single earlier (List.prefix_append _ _)
  have alone : live earlier = [first] := by
    obtain ⟨one, eq⟩ := List.length_eq_one_iff.mp (Nat.le_antisymm few (List.length_pos_of_mem mem))
    rw [eq] at mem ⊢
    rw [List.mem_singleton.mp mem]
  have ended : live (earlier ++ [.freed first]) = [] := by simp [live_concat, alone, after]
  have again : second ∈ live ((earlier ++ [.freed first]) ++ middle) :=
    orderly.own _ second later (by simp)
  rcases mem_live_append again with mem | mem
  · rw [ended] at mem
    cases mem
  · exact mem

end SetCall

def SetBackend.recording {σ : Type} (b : SetBackend σ) : SetBackend (σ × List SetCall) where
  allocate := fun pool layout s =>
    let r := b.allocate pool layout s.1
    (r.1, r.2, s.2 ++ [.ofAllocation pool r.1])
  free := fun pool set s =>
    let r := b.free pool set s.1
    (r.1, r.2, s.2 ++ [.ofFree ⟨set, pool⟩ r.1])
  write := fun set writes s => (b.write set writes s.1, s.2 ++ [.written set])

theorem SetBackend.recording_allocate_calls {σ : Type} (b : SetBackend σ) (pool layout : Handle)
    (s : σ × List SetCall) :
    (b.recording.allocate pool layout s).2.2 =
      s.2 ++ [.ofAllocation pool (b.recording.allocate pool layout s).1] := rfl

namespace ObjectState

variable {σ : Type}

inductive Operation where
  | setTexture (type : String) (texture : Texture)
  | bind (layout pool : Handle) (binding : UInt32)
  | release
  | detach

def perform (b : SetBackend σ) (s : ObjectState × σ) : Operation → ObjectState × σ
  | .setTexture type texture => (s.1.setTexture type texture, s.2)
  | .bind layout pool binding =>
    let r := s.1.bindTextures b layout pool binding s.2
    (r.object, r.backend)
  | .release => ((s.1.release b s.2).object, (s.1.release b s.2).backend)
  | .detach => ((s.1.detach b s.2).object, (s.1.detach b s.2).backend)

def performAll (b : SetBackend σ) (s : ObjectState × σ) (ops : List Operation) : ObjectState × σ :=
  ops.foldl (perform b) s

structure Tracks (o : ObjectState) (calls : List SetCall) : Prop where
  recorded : SetCall.live calls = o.textureSet.toList
  orderly : SetCall.Orderly calls

section release

variable {b : SetBackend σ} {o : ObjectState} {s : σ} {calls : List SetCall}

theorem release_calls : calls <+: (o.release b.recording (s, calls)).backend.2 := by
  unfold release
  split
  · exact List.prefix_refl _
  · exact List.prefix_append _ _

theorem release_object : (o.release b s).object = { o with textureSet := none } := by
  unfold release
  split
  · rename_i unbound
    rw [← unbound]
  · rfl

theorem Tracks.release (tracks : Tracks o calls)
    (frees : ∀ bound, .notFreed bound ∉ (o.release b.recording (s, calls)).backend.2) :
    (o.release b.recording (s, calls)).result = .ok () ∧
      Tracks { o with textureSet := none } (o.release b.recording (s, calls)).backend.2 := by
  unfold ObjectState.release at frees ⊢
  cases held : o.textureSet with
  | none =>
    simp only [held] at frees ⊢
    exact ⟨trivial, by rw [tracks.recorded, held], tracks.orderly⟩
  | some bound =>
    simp only [held, SetBackend.recording] at frees ⊢
    have live : SetCall.live calls = [bound] := by rw [tracks.recorded, held]; rfl
    cases freed : (b.free bound.pool bound.set s).1 with
    | error e => exact absurd (by simp [freed, SetCall.ofFree]) (frees bound)
    | ok u =>
      have ended : SetCall.live (calls ++ [.freed bound]) = [] := by
        simp [SetCall.live_concat, live, SetCall.after]
      have orderly : SetCall.Orderly (calls ++ [.freed bound]) := by
        refine tracks.orderly.concat (by simp [ended]) ?_
        rintro _ ⟨rfl⟩
        simp [live]
      exact ⟨rfl, ended, orderly⟩

end release

section bind

variable (b : SetBackend σ) (o : ObjectState) (layout pool : Handle) (binding : UInt32) (s : σ)

theorem bindTextures_cases :
    (∃ e, (o.release b s).result = .error e ∧ o.bindTextures b layout pool binding s =
      ⟨.error e, (o.release b s).object, (o.release b s).backend, []⟩) ∨
    (∃ e, (b.allocate pool layout (o.release b s).backend).1 = .error e ∧
      o.bindTextures b layout pool binding s = ⟨.error e, (o.release b s).object,
        (b.allocate pool layout (o.release b s).backend).2, []⟩) ∨
    ∃ set, (b.allocate pool layout (o.release b s).backend).1 = .ok set ∧
      o.bindTextures b layout pool binding s =
        ⟨.ok set, { (o.release b s).object with textureSet := some ⟨set, pool⟩ },
          b.write set (imageWrites binding (o.release b s).object.textures)
            (b.allocate pool layout (o.release b s).backend).2,
          slotWarnings (o.release b s).object.textures⟩ := by
  unfold bindTextures
  cases released : (o.release b s).result with
  | error e => exact .inl ⟨e, rfl, by simp only [released]⟩
  | ok u =>
    cases allocated : (b.allocate pool layout (o.release b s).backend).1 with
    | error e => exact .inr (.inl ⟨e, rfl, by simp only [released, allocated]⟩)
    | ok set => exact .inr (.inr ⟨set, rfl, by simp only [released, allocated]⟩)

variable {b o layout pool binding s} {calls : List SetCall}

theorem bind_calls : (o.release b.recording (s, calls)).backend.2 <+:
    (o.bindTextures b.recording layout pool binding (s, calls)).backend.2 := by
  rcases bindTextures_cases b.recording o layout pool binding (s, calls) with
    ⟨e, _, eq⟩ | ⟨e, _, eq⟩ | ⟨set, _, eq⟩
  · exact eq ▸ List.prefix_refl _
  · exact eq ▸ List.prefix_append _ _
  · exact eq ▸ (List.prefix_append _ _).trans (List.prefix_append _ _)

theorem Tracks.bind (tracks : Tracks o calls) (frees : ∀ bound,
    .notFreed bound ∉ (o.bindTextures b.recording layout pool binding (s, calls)).backend.2) :
    Tracks (o.bindTextures b.recording layout pool binding (s, calls)).object
        (o.bindTextures b.recording layout pool binding (s, calls)).backend.2 ∧
      ∀ set, (o.bindTextures b.recording layout pool binding (s, calls)).result = .ok set →
        (o.bindTextures b.recording layout pool binding (s, calls)).object.textureSet =
          some ⟨set, pool⟩ := by
  obtain ⟨went, free⟩ := tracks.release fun bound mem => frees bound (bind_calls.subset mem)
  have unbound : SetCall.live (o.release b.recording (s, calls)).backend.2 = [] := free.recorded
  rcases bindTextures_cases b.recording o layout pool binding (s, calls) with
    ⟨e, refused, _⟩ | ⟨e, refused, eq⟩ | ⟨set, given, eq⟩
  · rw [went] at refused
    cases refused
  · rw [eq, release_object, SetBackend.recording_allocate_calls, refused]
    refine ⟨⟨?_, free.orderly.quiet rfl (by simp [SetCall.ofAllocation])⟩, ?_⟩
    · rw [SetCall.live_concat, unbound]
      rfl
    · intro set impossible
      cases impossible
  · have live : SetCall.live ((o.release b.recording (s, calls)).backend.2 ++
        [.allocated ⟨set, pool⟩]) = [⟨set, pool⟩] := by
      rw [SetCall.live_concat, unbound]
      rfl
    have orderly : SetCall.Orderly ((o.release b.recording (s, calls)).backend.2 ++
        [.allocated ⟨set, pool⟩]) :=
      free.orderly.concat (by simp [live]) (by simp)
    have ended : (b.recording.write set
        (imageWrites binding (o.release b.recording (s, calls)).object.textures)
        (b.recording.allocate pool layout (o.release b.recording (s, calls)).backend).2).2 =
          ((o.release b.recording (s, calls)).backend.2 ++ [.allocated ⟨set, pool⟩]) ++
            [.written set] := by
      change (b.recording.allocate pool layout _).2.2 ++ [_] = _
      rw [SetBackend.recording_allocate_calls, given]
      rfl
    rw [eq, ended, release_object]
    refine ⟨⟨?_, orderly.quiet rfl (by simp)⟩, ?_⟩
    · rw [SetCall.live_concat, live]
      rfl
    · rintro _ ⟨rfl⟩
      rfl

end bind

theorem detach_backend (b : SetBackend σ) (o : ObjectState) (s : σ) :
    (o.detach b s).backend = (o.release b s).backend := by
  unfold detach
  cases released : (o.release b s).result <;> simp only [released]

theorem detach_textureSet (b : SetBackend σ) (o : ObjectState) (s : σ) :
    (o.detach b s).object.textureSet = (o.release b s).object.textureSet := by
  unfold detach
  cases released : (o.release b s).result <;> simp only [released]

section perform

variable {b : SetBackend σ} {o : ObjectState} {s : σ} {calls : List SetCall}

theorem perform_calls (op : Operation) :
    calls <+: (perform b.recording (o, s, calls) op).2.2 := by
  cases op with
  | setTexture type texture => exact List.prefix_refl _
  | bind layout pool binding => exact release_calls.trans bind_calls
  | release => exact release_calls
  | detach =>
    simp only [perform, detach_backend]
    exact release_calls

theorem performAll_calls (ops : List Operation) :
    calls <+: (performAll b.recording (o, s, calls) ops).2.2 := by
  induction ops generalizing o s calls with
  | nil => exact List.prefix_refl _
  | cons op rest ih => exact (perform_calls op).trans ih

theorem Tracks.perform (tracks : Tracks o calls) (op : Operation)
    (frees : ∀ bound, .notFreed bound ∉ (perform b.recording (o, s, calls) op).2.2) :
    Tracks (ObjectState.perform b.recording (o, s, calls) op).1
      (ObjectState.perform b.recording (o, s, calls) op).2.2 := by
  cases op with
  | setTexture type texture => exact ⟨tracks.recorded, tracks.orderly⟩
  | bind layout pool binding => exact (tracks.bind frees).1
  | release =>
    have free := (tracks.release frees).2
    rw [← release_object (b := b.recording) (s := (s, calls))] at free
    exact free
  | detach =>
    simp only [ObjectState.perform, detach_backend] at frees ⊢
    have free := (tracks.release frees).2
    exact ⟨by rw [free.recorded, detach_textureSet, release_object], free.orderly⟩

theorem Tracks.performAll (tracks : Tracks o calls) (ops : List Operation)
    (frees : ∀ bound, .notFreed bound ∉ (performAll b.recording (o, s, calls) ops).2.2) :
    Tracks (ObjectState.performAll b.recording (o, s, calls) ops).1
      (ObjectState.performAll b.recording (o, s, calls) ops).2.2 := by
  induction ops generalizing o s calls with
  | nil => exact tracks
  | cons op rest ih =>
    have first := tracks.perform op fun bound mem => frees bound ((performAll_calls rest).subset mem)
    exact ih first frees

def Step.unrecorded {α : Type} (r : Step (σ × List SetCall) α) : Step σ α :=
  ⟨r.result, r.object, r.backend.1, r.records⟩

theorem release_unrecorded (b : SetBackend σ) (o : ObjectState) (s : σ) (calls : List SetCall) :
    (o.release b.recording (s, calls)).unrecorded = o.release b s := by
  unfold release
  cases o.textureSet <;> rfl

theorem bindTextures_unrecorded (b : SetBackend σ) (o : ObjectState) (layout pool : Handle)
    (binding : UInt32) (s : σ) (calls : List SetCall) :
    (o.bindTextures b.recording layout pool binding (s, calls)).unrecorded =
      o.bindTextures b layout pool binding s := by
  unfold bindTextures
  rw [← release_unrecorded b o s calls]
  generalize o.release b.recording (s, calls) = r
  obtain ⟨result, object, ⟨t, more⟩, records⟩ := r
  cases result with
  | error e => rfl
  | ok u =>
    simp only [Step.unrecorded, SetBackend.recording]
    cases (b.allocate pool layout t).1 <;> rfl

theorem detach_unrecorded (b : SetBackend σ) (o : ObjectState) (s : σ) (calls : List SetCall) :
    (o.detach b.recording (s, calls)).unrecorded = o.detach b s := by
  unfold detach
  rw [← release_unrecorded b o s calls]
  generalize o.release b.recording (s, calls) = r
  obtain ⟨result, object, t, records⟩ := r
  cases result <;> rfl

theorem perform_recording (s : ObjectState × σ × List SetCall) (op : Operation) :
    ((perform b.recording s op).1, (perform b.recording s op).2.1) = perform b (s.1, s.2.1) op := by
  obtain ⟨o, s, calls⟩ := s
  cases op with
  | setTexture type texture => rfl
  | bind layout pool binding =>
    simp only [perform, ← bindTextures_unrecorded b o layout pool binding s calls]
    rfl
  | release =>
    simp only [perform, ← release_unrecorded b o s calls]
    rfl
  | detach =>
    simp only [perform, ← detach_unrecorded b o s calls]
    rfl

theorem performAll_recording (s : ObjectState × σ × List SetCall) (ops : List Operation) :
    ((performAll b.recording s ops).1, (performAll b.recording s ops).2.1) =
      performAll b (s.1, s.2.1) ops := by
  induction ops generalizing s with
  | nil => rfl
  | cons op rest ih =>
    refine (ih (perform b.recording s op)).trans ?_
    rw [perform_recording]
    rfl

theorem performAll_append (s : ObjectState × σ) (done rest : List Operation) :
    performAll b s (done ++ rest) = performAll b (performAll b s done) rest :=
  List.foldl_append

theorem tracks_initial (unbound : o.textureSet = none) {ops done : List Operation}
    (frees : ∀ bound, .notFreed bound ∉ (performAll b.recording (o, s, []) ops).2.2)
    (first : done <+: ops) :
    (∀ bound, .notFreed bound ∉ (performAll b.recording (o, s, []) done).2.2) ∧
      Tracks (performAll b.recording (o, s, []) done).1
        (performAll b.recording (o, s, []) done).2.2 := by
  obtain ⟨rest, rfl⟩ := first
  rw [performAll_append] at frees
  have freed : ∀ bound, .notFreed bound ∉ (performAll b.recording (o, s, []) done).2.2 :=
    fun bound mem => frees bound ((performAll_calls rest).subset mem)
  have start : Tracks o [] := ⟨by rw [unbound]; rfl, SetCall.orderly_nil⟩
  exact ⟨freed, start.performAll done freed⟩

end perform

/-- After each operation the recorded set is what is live, and in between there is never a second
one. What is freed is live in the pool it goes back to, and is not freed again unless it is allocated
again. A bind that succeeds gives the live set. -/
structure KeepsOneSet (b : SetBackend σ) (o : ObjectState) (s : σ) (ops : List Operation) : Prop where
  recorded : ∀ done, done <+: ops → SetCall.live (performAll b.recording (o, s, []) done).2.2 =
    (performAll b (o, s) done).1.textureSet.toList
  single : ∀ earlier, earlier <+: (performAll b.recording (o, s, []) ops).2.2 →
    (SetCall.live earlier).length ≤ 1
  own : ∀ earlier bound later,
    (performAll b.recording (o, s, []) ops).2.2 = earlier ++ .freed bound :: later →
      bound ∈ SetCall.live earlier
  once : ∀ earlier first middle second later, (performAll b.recording (o, s, []) ops).2.2 =
    earlier ++ .freed first :: (middle ++ .freed second :: later) → .allocated second ∈ middle
  given : ∀ done layout pool binding set, done ++ [.bind layout pool binding] <+: ops →
    ((performAll b (o, s) done).1.bindTextures b layout pool binding
      (performAll b (o, s) done).2).result = .ok set →
    SetCall.live (performAll b.recording (o, s, []) (done ++ [.bind layout pool binding])).2.2 =
      [⟨set, pool⟩]

/-- Any allocation may fail, and a backend may give a set anew as soon as it was freed. -/
theorem performAll_keepsOneSet (b : SetBackend σ) (o : ObjectState) (s : σ) (ops : List Operation)
    (unbound : o.textureSet = none)
    (frees : ∀ bound, .notFreed bound ∉ (performAll b.recording (o, s, []) ops).2.2) :
    KeepsOneSet b o s ops := by
  have tracks : ∀ done, done <+: ops → Tracks (performAll b.recording (o, s, []) done).1
      (performAll b.recording (o, s, []) done).2.2 :=
    fun done first => (tracks_initial unbound frees first).2
  have orderly := (tracks ops (List.prefix_refl _)).orderly
  have plain := fun done => performAll_recording (b := b) (o, s, []) done
  refine ⟨?_, orderly.single, orderly.own, ?_, ?_⟩
  · intro done first
    rw [(tracks done first).recorded, ← plain done]
  · intro earlier first middle second later eq
    rw [eq] at orderly
    exact orderly.freed_once
  · intro done layout pool binding set first given
    have before := tracks done ((List.prefix_append _ _).trans first)
    obtain ⟨freed, after⟩ := tracks_initial unbound frees first
    rw [performAll_append] at freed after ⊢
    rw [← plain done] at given
    rw [after.recorded]
    generalize performAll b.recording (o, s, []) done = reached at *
    obtain ⟨object, backend, calls⟩ := reached
    rw [← bindTextures_unrecorded b _ layout pool binding _ calls] at given
    have bound : (performAll b.recording (object, backend, calls)
        [.bind layout pool binding]).1.textureSet = some ⟨set, pool⟩ :=
      (before.bind freed).2 set given
    rw [bound]
    rfl

namespace TwoPools

-- the driver runs out of sets once, when the object changes its pool
def machine : Machine :=
  .start ⟨[], ⟨0xFFFFFFFF, 1, 0⟩, []⟩ (.ofList [(.allocateSets, 2, -1000069000)])

def ops : List Operation :=
  [.setTexture "diffuse" ⟨1, 2, 3⟩, .bind 7 1 0, .bind 7 2 0, .bind 7 2 0, .bind 7 1 0, .detach]

def after : ObjectState × Machine × List SetCall :=
  performAll deviceBackend.recording ({}, machine, []) ops

theorem after_calls : after.2.2 = [.allocated ⟨1, 1⟩, .written 1, .freed ⟨1, 1⟩, .notAllocated 2,
    .allocated ⟨2, 2⟩, .written 2, .freed ⟨2, 2⟩, .allocated ⟨3, 1⟩, .written 3, .freed ⟨3, 1⟩] :=
  rfl

end TwoPools

open TwoPools in
theorem performAll_keepsOneSet_two_pools :
    ({} : ObjectState).textureSet = none ∧ (∀ bound, .notFreed bound ∉ after.2.2) ∧
      KeepsOneSet deviceBackend {} machine ops := by
  have frees : ∀ bound, .notFreed bound ∉ after.2.2 := by simp [after_calls]
  exact ⟨rfl, frees, performAll_keepsOneSet deviceBackend {} machine ops rfl frees⟩

end ObjectState
end SceneGpu
