import Mathlib.Data.List.Perm.Basic
import SceneGpu.Object.State
import SceneGpu.Proofs.Object.SetLifetime
/-!
Texture sets that a pool refuses to take back. The object forgets such a set before it asks the pool,
so what is live is the recorded set together with all that was ever refused.
-/
namespace SceneGpu

open Gpu

namespace SetCall

def returned? : SetCall → Option BoundSet
  | .freed bound => some bound
  | .notFreed bound => some bound
  | .allocated _ => none
  | .notAllocated _ => none
  | .written _ => none

def refused? : SetCall → Option BoundSet
  | .notFreed bound => some bound
  | _ => none

def refused (calls : List SetCall) : List BoundSet := calls.filterMap refused?

theorem refused_concat (calls : List SetCall) (c : SetCall) :
    refused (calls ++ [c]) = refused calls ++ c.refused?.toList := by
  unfold refused
  cases taken : c.refused? <;> simp [taken]

theorem mem_refused {calls : List SetCall} {bound : BoundSet} :
    bound ∈ refused calls ↔ .notFreed bound ∈ calls := by
  unfold refused
  rw [List.mem_filterMap]
  constructor
  · rintro ⟨c, mem, eq⟩
    cases c <;> cases eq
    exact mem
  · intro mem
    exact ⟨_, mem, rfl⟩

theorem refused_eq_nil {calls : List SetCall} :
    refused calls = [] ↔ ∀ bound, .notFreed bound ∉ calls := by
  rw [List.eq_nil_iff_forall_not_mem]
  exact forall_congr' fun bound => not_congr mem_refused

def Out (calls : List SetCall) (bound : BoundSet) : Prop :=
  ∃ earlier since, calls = earlier ++ .allocated bound :: since ∧ ∀ c ∈ since, c.returned? = none

/-- Of two returns the second has an allocation of its set in front of it and behind the first. -/
def ReturnedOnce (calls : List SetCall) : Prop :=
  ∀ earlier c middle d later first second, calls = earlier ++ c :: (middle ++ d :: later) →
    c.returned? = some first → d.returned? = some second → .allocated second ∈ middle

theorem Out.concat {calls : List SetCall} {bound : BoundSet} {c : SetCall} (out : Out calls bound)
    (other : c.returned? = none) : Out (calls ++ [c]) bound := by
  obtain ⟨earlier, since, rfl, none_since⟩ := out
  refine ⟨earlier, since ++ [c], by simp, ?_⟩
  intro d mem
  rcases List.mem_append.mp mem with mem | mem
  · exact none_since d mem
  · rwa [List.mem_singleton.mp mem]

theorem Out.allocated (calls : List SetCall) (bound : BoundSet) :
    Out (calls ++ [.allocated bound]) bound :=
  ⟨calls, [], rfl, by simp⟩

theorem Out.allocated_since {earlier rest : List SetCall} {c : SetCall} {first bound : BoundSet}
    (out : Out (earlier ++ c :: rest) bound) (returned : c.returned? = some first) :
    .allocated bound ∈ rest := by
  obtain ⟨front, since, eq, none_since⟩ := out
  rcases List.append_eq_append_iff.mp eq with ⟨between, rfl, tail⟩ | ⟨between, rfl, tail⟩
  · cases between with
    | nil =>
      obtain ⟨rfl, -⟩ := List.cons.inj tail
      cases returned
    | cons d between =>
      obtain ⟨-, rfl⟩ := List.cons.inj tail
      simp
  · cases between with
    | nil =>
      obtain ⟨rfl, -⟩ := List.cons.inj tail
      cases returned
    | cons d between =>
      obtain ⟨-, rfl⟩ := List.cons.inj tail
      have other := none_since c (by simp)
      rw [returned] at other
      cases other

theorem ReturnedOnce.nil : ReturnedOnce [] := by
  intro earlier c middle d later first second eq
  simp at eq

theorem ReturnedOnce.concat {calls : List SetCall} {c : SetCall} (once : ReturnedOnce calls)
    (out : ∀ bound, c.returned? = some bound → Out calls bound) : ReturnedOnce (calls ++ [c]) := by
  intro earlier d middle e later first second eq returned again
  rw [← List.cons_append, ← List.append_assoc] at eq
  rcases concat_eq_split eq with ⟨rfl, rfl, rfl⟩ | ⟨front, whole, rfl⟩
  · exact (out second again).allocated_since returned
  · rw [List.append_assoc, List.cons_append] at whole
    exact once earlier d middle e front first second whole returned again

end SetCall

namespace ObjectState

open SetCall (live refused Out ReturnedOnce)

variable {σ : Type}

/-- What is live is recorded or was refused, and what is recorded was not returned yet. -/
structure Accounts (o : ObjectState) (calls : List SetCall) : Prop where
  balance : (live calls).Perm (refused calls ++ o.textureSet.toList)
  out : ∀ bound, o.textureSet = some bound → Out calls bound
  once : ReturnedOnce calls

def allocation (o : ObjectState) : List SetCall := o.textureSet.toList.map .allocated

theorem accounts_allocation (o : ObjectState) : Accounts o o.allocation := by
  unfold allocation
  cases held : o.textureSet with
  | none =>
    refine ⟨?_, ?_, ReturnedOnce.nil⟩
    · rw [held]
      exact .refl _
    · intro bound recorded
      rw [held] at recorded
      cases recorded
  | some bound =>
    refine ⟨?_, ?_, ?_⟩
    · rw [held]
      exact .refl _
    · intro other recorded
      obtain rfl := Option.some.inj (held.symm.trans recorded)
      exact Out.allocated [] bound
    · exact ReturnedOnce.nil.concat (c := .allocated bound) fun _ impossible => nomatch impossible

namespace Accounts

variable {o o' : ObjectState} {calls : List SetCall}

theorem congr (accounts : Accounts o calls) (same : o'.textureSet = o.textureSet) :
    Accounts o' calls :=
  ⟨by rw [same]; exact accounts.balance, by rw [same]; exact accounts.out, accounts.once⟩

theorem quiet {c : SetCall} (accounts : Accounts o calls) (still : SetCall.after (live calls) c = live calls)
    (other : c.returned? = none) (taken : c.refused? = none) : Accounts o (calls ++ [c]) where
  balance := by
    rw [SetCall.live_concat, still, SetCall.refused_concat, taken]
    simpa using accounts.balance
  out := fun bound recorded => (accounts.out bound recorded).concat other
  once := accounts.once.concat fun bound returned => by
    rw [other] at returned
    cases returned

theorem allocated (accounts : Accounts o calls) (unbound : o.textureSet = none) (bound : BoundSet) :
    Accounts { o with textureSet := some bound } (calls ++ [.allocated bound]) where
  balance := by
    have balance := accounts.balance
    rw [unbound, Option.toList_none, List.append_nil] at balance
    rw [SetCall.live_concat, SetCall.refused_concat]
    simpa [SetCall.after, SetCall.refused?] using balance.append_right [bound]
  out := by
    rintro _ ⟨rfl⟩
    exact Out.allocated calls bound
  once := accounts.once.concat fun _ impossible => nomatch impossible

theorem freed {bound : BoundSet} (accounts : Accounts o calls) (held : o.textureSet = some bound) :
    Accounts { o with textureSet := none } (calls ++ [.freed bound]) where
  balance := by
    have balance := accounts.balance
    rw [held] at balance
    have front : (live calls).Perm (bound :: refused calls) :=
      balance.trans (List.perm_append_singleton _ _)
    have rest := front.erase bound
    rw [List.erase_cons_head] at rest
    rw [SetCall.live_concat, SetCall.refused_concat]
    simpa [SetCall.after, SetCall.refused?] using rest
  out := fun _ impossible => nomatch impossible
  once := by
    refine accounts.once.concat ?_
    rintro _ ⟨rfl⟩
    exact accounts.out bound held

theorem notFreed {bound : BoundSet} (accounts : Accounts o calls) (held : o.textureSet = some bound) :
    Accounts { o with textureSet := none } (calls ++ [.notFreed bound]) where
  balance := by
    have balance := accounts.balance
    rw [held] at balance
    rw [SetCall.live_concat, SetCall.refused_concat]
    simpa [SetCall.after, SetCall.refused?] using balance
  out := fun _ impossible => nomatch impossible
  once := by
    refine accounts.once.concat ?_
    rintro _ ⟨rfl⟩
    exact accounts.out bound held

end Accounts

section perform

variable {b : SetBackend σ} {o : ObjectState} {s : σ} {calls : List SetCall}

theorem Accounts.release (accounts : Accounts o calls) :
    Accounts (o.release b.recording (s, calls)).object
      (o.release b.recording (s, calls)).backend.2 := by
  rw [release_object]
  unfold ObjectState.release
  cases held : o.textureSet with
  | none => exact accounts.congr held.symm
  | some bound =>
    simp only [SetBackend.recording]
    cases freed : (b.free bound.pool bound.set s).1 with
    | ok u => exact accounts.freed held
    | error e => exact accounts.notFreed held

theorem Accounts.bind (accounts : Accounts o calls) (layout pool : Handle) (binding : UInt32) :
    Accounts (o.bindTextures b.recording layout pool binding (s, calls)).object
      (o.bindTextures b.recording layout pool binding (s, calls)).backend.2 := by
  have released := accounts.release (b := b) (s := s)
  have unbound : (o.release b.recording (s, calls)).object.textureSet = none := by
    rw [release_object]
  rcases bindTextures_cases b.recording o layout pool binding (s, calls) with
    ⟨e, _, eq⟩ | ⟨e, failed, eq⟩ | ⟨set, given, eq⟩
  · rw [eq]
    exact released
  · rw [eq]
    dsimp only
    rw [SetBackend.recording_allocate_calls, failed]
    exact released.quiet rfl rfl rfl
  · rw [eq]
    have bound := released.allocated unbound ⟨set, pool⟩
    change Accounts _ ((b.recording.allocate pool layout _).2.2 ++ [.written set])
    rw [SetBackend.recording_allocate_calls, given]
    exact bound.quiet rfl rfl rfl

theorem Accounts.perform (accounts : Accounts o calls) (op : Operation) :
    Accounts (ObjectState.perform b.recording (o, s, calls) op).1
      (ObjectState.perform b.recording (o, s, calls) op).2.2 := by
  cases op with
  | setTexture type texture => exact accounts.congr rfl
  | bind layout pool binding => exact accounts.bind layout pool binding
  | release => exact accounts.release
  | detach =>
    simp only [ObjectState.perform, detach_backend]
    exact accounts.release.congr (detach_textureSet b.recording o (s, calls))

theorem Accounts.performAll (accounts : Accounts o calls) (ops : List Operation) :
    Accounts (ObjectState.performAll b.recording (o, s, calls) ops).1
      (ObjectState.performAll b.recording (o, s, calls) ops).2.2 := by
  induction ops generalizing o s calls with
  | nil => exact accounts
  | cons op rest ih => exact ih (accounts.perform op)

theorem release_recording_cases (b : SetBackend σ) (o : ObjectState) (s : σ) (calls : List SetCall) :
    (∃ bound e, o.textureSet = some bound ∧
      (o.release b.recording (s, calls)).result = .error e ∧
      (o.release b.recording (s, calls)).backend.2 = calls ++ [.notFreed bound]) ∨
    ((o.release b.recording (s, calls)).result = .ok () ∧
      ∃ made, (o.release b.recording (s, calls)).backend.2 = calls ++ made ∧ refused made = []) := by
  unfold ObjectState.release
  cases held : o.textureSet with
  | none => exact .inr ⟨rfl, [], (List.append_nil calls).symm, rfl⟩
  | some bound =>
    simp only [SetBackend.recording]
    cases freed : (b.free bound.pool bound.set s).1 with
    | ok u => exact .inr ⟨rfl, [.freed bound], rfl, rfl⟩
    | error e => exact .inl ⟨bound, e, rfl, rfl, rfl⟩

theorem bindTextures_of_refused {layout pool : Handle} {binding : UInt32} {e : Failure}
    (failed : (o.release b s).result = .error e) : o.bindTextures b layout pool binding s =
      ⟨.error e, (o.release b s).object, (o.release b s).backend, []⟩ := by
  unfold bindTextures
  simp only [failed]

theorem detach_of_refused {e : Failure} (failed : (o.release b s).result = .error e) :
    o.detach b s = ⟨.error e, (o.release b s).object, (o.release b s).backend, []⟩ := by
  unfold detach
  simp only [failed]

theorem bindTextures_made {layout pool : Handle} {binding : UInt32} {made : List SetCall}
    (went : (o.release b.recording (s, calls)).backend.2 = calls ++ made) (fine : refused made = []) :
    ∃ more, (o.bindTextures b.recording layout pool binding (s, calls)).backend.2 = calls ++ more ∧
      refused more = [] := by
  rcases bindTextures_cases b.recording o layout pool binding (s, calls) with
    ⟨e, _, eq⟩ | ⟨e, failed, eq⟩ | ⟨set, given, eq⟩
  · exact ⟨made, eq ▸ went, fine⟩
  · refine ⟨made ++ [.notAllocated pool], ?_, by rw [SetCall.refused_concat, fine]; rfl⟩
    rw [eq]
    dsimp only
    rw [SetBackend.recording_allocate_calls, failed, went, List.append_assoc]
    rfl
  · refine ⟨made ++ [.allocated ⟨set, pool⟩] ++ [.written set], ?_, ?_⟩
    · rw [eq]
      change (b.recording.allocate pool layout _).2.2 ++ [_] = _
      rw [SetBackend.recording_allocate_calls, given, went]
      simp only [List.append_assoc]
      rfl
    · rw [SetCall.refused_concat, SetCall.refused_concat, fine]
      rfl

theorem perform_recording_cases (b : SetBackend σ) (o : ObjectState) (s : σ) (calls : List SetCall)
    (op : Operation) :
    (∃ bound, o.textureSet = some bound ∧
      (perform b.recording (o, s, calls) op).2.2 = calls ++ [.notFreed bound] ∧
      (perform b.recording (o, s, calls) op).1 = { o with textureSet := none }) ∨
    ∃ made, (perform b.recording (o, s, calls) op).2.2 = calls ++ made ∧ refused made = [] := by
  have object := release_object (b := b.recording) (o := o) (s := (s, calls))
  cases op with
  | setTexture type texture => exact .inr ⟨[], (List.append_nil calls).symm, rfl⟩
  | bind layout pool binding =>
    rcases release_recording_cases b o s calls with ⟨bound, e, held, failed, went⟩ | ⟨_, made, went, fine⟩
    · refine .inl ⟨bound, held, ?_, ?_⟩
      · simp only [perform, bindTextures_of_refused failed, went]
      · simp only [perform, bindTextures_of_refused failed, object]
    · exact .inr (bindTextures_made went fine)
  | release =>
    rcases release_recording_cases b o s calls with ⟨bound, e, held, failed, went⟩ | ⟨_, made, went, fine⟩
    · exact .inl ⟨bound, held, went, object⟩
    · exact .inr ⟨made, went, fine⟩
  | detach =>
    rcases release_recording_cases b o s calls with ⟨bound, e, held, failed, went⟩ | ⟨_, made, went, fine⟩
    · refine .inl ⟨bound, held, ?_, ?_⟩
      · simp only [perform, detach_of_refused failed, went]
      · simp only [perform, detach_of_refused failed, object]
    · refine .inr ⟨made, ?_, fine⟩
      simp only [perform, detach_backend, went]

end perform

def callsOf (b : SetBackend σ) (o : ObjectState) (s : σ) (ops : List Operation) : List SetCall :=
  (performAll b.recording (o, s, o.allocation) ops).2.2

/-- What is live after each operation is the recorded set and all sets that were refused so far; a
refused set is not returned again unless it is given out anew. An operation that is refused has asked
for nothing else, and has changed the object in its set alone. So everything live is recorded exactly
as long as no free is refused. -/
structure ForgetsRefused (b : SetBackend σ) (o : ObjectState) (s : σ) (ops : List Operation) : Prop where
  live : ∀ done, done <+: ops → (live (callsOf b o s done)).Perm
    (refused (callsOf b o s done) ++ (performAll b (o, s) done).1.textureSet.toList)
  once : ReturnedOnce (callsOf b o s ops)
  stops : ∀ done op made bound, done ++ [op] <+: ops →
    callsOf b o s (done ++ [op]) = callsOf b o s done ++ made → .notFreed bound ∈ made →
      made = [.notFreed bound] ∧ (performAll b (o, s) done).1.textureSet = some bound ∧
        (performAll b (o, s) (done ++ [op])).1 =
          { (performAll b (o, s) done).1 with textureSet := none }
  recorded : (∀ done, done <+: ops → (SetCall.live (callsOf b o s done)).Perm
    (performAll b (o, s) done).1.textureSet.toList) ↔ ∀ bound, .notFreed bound ∉ callsOf b o s ops

theorem performAll_forgets_refused (b : SetBackend σ) (o : ObjectState) (s : σ)
    (ops : List Operation) : ForgetsRefused b o s ops := by
  have plain := fun done => performAll_recording (b := b) (o, s, o.allocation) done
  have accounts : ∀ done, Accounts (performAll b (o, s) done).1 (callsOf b o s done) := by
    intro done
    have reached := (accounts_allocation o).performAll (b := b) (s := s) done
    rwa [congrArg Prod.fst (plain done)] at reached
  refine ⟨fun done _ => (accounts done).balance, (accounts ops).once, ?_, ?_⟩
  · intro done op made bound _ grown mem
    unfold callsOf at grown
    rw [← plain done, ← plain (done ++ [op])]
    rw [performAll_append] at grown ⊢
    generalize performAll b.recording (o, s, o.allocation) done = reached at grown ⊢
    obtain ⟨object, backend, calls⟩ := reached
    rcases perform_recording_cases b object backend calls op with ⟨other, held, went, lost⟩ | ⟨more, went, fine⟩
    · obtain rfl := List.append_cancel_left (went.symm.trans grown)
      obtain rfl : bound = other := by simpa using mem
      exact ⟨rfl, held, lost⟩
    · obtain rfl := List.append_cancel_left (went.symm.trans grown)
      exact absurd mem (SetCall.refused_eq_nil.mp fine bound)
  · rw [← SetCall.refused_eq_nil]
    constructor
    · intro all
      have same := (accounts ops).balance.symm.trans (all ops (List.prefix_refl _))
      have length := same.length_eq
      rw [List.length_append] at length
      exact List.eq_nil_of_length_eq_zero (by omega)
    · rintro none_refused done ⟨rest, rfl⟩
      have earlier : refused (callsOf b o s done) = [] := by
        rw [SetCall.refused_eq_nil] at none_refused ⊢
        intro bound mem
        refine none_refused bound ?_
        unfold callsOf
        rw [performAll_append]
        exact (performAll_calls rest).subset mem
      have balance := (accounts done).balance
      rwa [earlier] at balance

namespace RefusedOnce

def object : ObjectState := { textureSet := some ⟨1, 1⟩ }

-- the pool refuses to take the set back, and takes all back from then on
def refusing : SimulatedPool := ⟨1, [1], [], false, true⟩

def later : ObjectState × SimulatedPool :=
  let released := object.release SimulatedPool.backend refusing
  (released.object, { released.backend with refusesFree := false })

end RefusedOnce

open RefusedOnce in
theorem refused_set_stays_live :
    (SimulatedPool.backend.free 1 1 refusing).1 = .error (.plain "free refused") ∧
      (object.release SimulatedPool.backend refusing).object ≠ object ∧
      (object.bindTextures SimulatedPool.backend 2 1 0 refusing).object ≠ object ∧
      (object.detach SimulatedPool.backend refusing).object ≠ object ∧
      later.2.live = [1] ∧ later.1.textureSet = none ∧
      (performAll SimulatedPool.backend later [.release, .bind 2 1 0, .detach]).2.live = [1] := by
  decide

end ObjectState
end SceneGpu
