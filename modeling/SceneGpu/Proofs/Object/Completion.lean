import Mathlib.Algebra.GroupWithZero.Nat
import Mathlib.Algebra.Order.BigOperators.Group.List
import Mathlib.Algebra.Order.Group.Nat
import SceneGpu.Proofs.Collection.Lists
import SceneGpu.Proofs.Object.ConcurrentBinding
/-!
Nobody is stuck. An update waits only for those who have the lock, and a reader only for an update that has
it. Whoever has it never waits, so it returns by steps of its own, and all that was begun can be completed.
-/
namespace SceneGpu

theorem sum_map_set {α : Type} {l : List α} {i : Nat} {x : α} (f : α → Nat) (there : l[i]? = some x)
    (y : α) : ((l.set i y).map f).sum + f x = (l.map f).sum + f y := by
  obtain ⟨front, back, all, set⟩ := set_split there y
  rw [set, all]
  simp only [List.map_append, List.map_cons, List.sum_append, List.sum_cons]
  omega

variable {τ ρ : Type}

def UpdatePhase.left : UpdatePhase τ ρ → Nat
  | .waiting => 5
  | .locked => 4
  | .copied _ => 3
  | .changed _ _ => 2
  | .swapped _ => 1
  | .returned _ => 0

theorem UpdatePhase.left_eq_zero {phase : UpdatePhase τ ρ} :
    phase.left = 0 ↔ ∃ result, phase = .returned result := by
  cases phase <;> simp [left]

theorem Update.advance_begun (v : SharedValue τ) {u : Update τ ρ} (begun : u.phase ≠ .waiting) :
    (u.advance v).2.phase ≠ .waiting ∧ (u.advance v).2.phase.left = u.phase.left - 1 := by
  obtain ⟨change, phase⟩ := u
  cases phase with
  | waiting => exact absurd rfl begun
  | _ => simp [advance, UpdatePhase.left]

theorem Update.advance_reading (v : SharedValue τ) (u : Update τ ρ) :
    (u.advance v).1.reading = v.reading := by
  unfold advance
  cases u.phase with
  | waiting =>
    dsimp only
    split <;> rfl
  | _ => rfl

namespace Load

def left : Load → Nat
  | .waiting => 3
  | .locked => 2
  | .taken _ => 1
  | .returned _ => 0

/-- Those who read are counted while they have the lock. -/
def entered : Load → Nat
  | .waiting => 0
  | .locked => 1
  | .taken _ => 1
  | .returned _ => 0

theorem left_eq_zero {l : Load} : l.left = 0 ↔ ∃ place, l = .returned place := by
  cases l <;> simp [left]

theorem entered_of_left {l : Load} (done : l.left = 0) : l.entered = 0 := by
  obtain ⟨place, rfl⟩ := left_eq_zero.mp done
  rfl

theorem left_pos {l : Load} (inside : l.arrived? = none) : 0 < l.left := by
  cases l with
  | returned place => cases inside
  | _ => exact Nat.succ_pos _

theorem advance_left {v : SharedValue τ} {l : Load} (enters : l = .waiting → v.writing = false) :
    (l.advance v).2.left = l.left - 1 := by
  cases l with
  | waiting =>
    rw [advance, enters rfl]
    rfl
  | _ => rfl

theorem advance_begun (v : SharedValue τ) {l : Load} (begun : l ≠ .waiting) :
    (l.advance v).2 ≠ .waiting := by
  cases l with
  | waiting => exact absurd rfl begun
  | _ => simp [advance]

theorem advance_reading {v : SharedValue τ} {l : Load} (counted : l.entered ≤ v.reading) :
    (l.advance v).1.reading + l.entered = v.reading + (l.advance v).2.entered := by
  cases l with
  | waiting =>
    rw [advance]
    split <;> rfl
  | taken place => exact Nat.sub_add_cancel counted
  | _ => rfl

end Load

namespace ObjectState

open Gpu

variable {σ : Type}

namespace BindPhase

def left : BindPhase → Nat
  | .waiting => 6
  | .released => 5
  | .loading _ load => load.left + 1
  | .done _ _ => 0

def entered : BindPhase → Nat
  | .loading _ load => load.entered
  | _ => 0

theorem left_eq_zero {phase : BindPhase} :
    phase.left = 0 ↔ ∃ result records, phase = .done result records := by
  cases phase <;> simp [left]

theorem entered_of_left {phase : BindPhase} (done : phase.left = 0) : phase.entered = 0 := by
  obtain ⟨result, records, rfl⟩ := left_eq_zero.mp done
  rfl

end BindPhase

namespace BindingMove

def isUpdate (n : Nat) : BindingMove ρ → Bool
  | .update k => k = n
  | _ => false

def isBind : BindingMove ρ → Bool
  | .bind => true
  | _ => false

def isStep : BindingMove ρ → Bool
  | .beginUpdate _ => false
  | .beginLoad => false
  | _ => true

end BindingMove

namespace Binding

variable {b : SetBackend σ} {r : BindRequest} {o : ObjectState} {s : σ} {w : Binding σ ρ}

section update

theorem advance_updates (b : SetBackend σ) (r : BindRequest) (w : Binding σ ρ) :
    (w.advance b r).textures.updates = w.textures.updates := by
  unfold advance
  repeat' split
  all_goals rfl

theorem move_update {n : Nat} {u : Update TextureMap ρ} (here : w.textures.updates[n]? = some u)
    (begun : u.phase ≠ .waiting) (m : BindingMove ρ) :
    ∃ u', (w.move b r m).textures.updates[n]? = some u' ∧ u'.phase ≠ .waiting ∧
      u'.phase.left = u.phase.left - if m.isUpdate n then 1 else 0 := by
  cases m with
  | beginUpdate change =>
    have inside := (List.getElem?_eq_some_iff.mp here).1
    exact ⟨u, by rwa [move, Sharing.begin, List.getElem?_append_left inside], begun, rfl⟩
  | update k =>
    by_cases own : k = n
    · subst own
      obtain ⟨still, less⟩ := Update.advance_begun w.textures.shared begun
      refine ⟨(u.advance w.textures.shared).2, ?_, still, ?_⟩
      · rw [move, Sharing.step_eq here]
        exact Sharing.updates_set here _
      · rw [less]
        simp [BindingMove.isUpdate]
    · refine ⟨u, ?_, begun, ?_⟩
      · rw [move, Sharing.step]
        split
        · exact here
        · rwa [List.getElem?_set_ne own]
      · rw [if_neg (by simpa [BindingMove.isUpdate] using own), Nat.sub_zero]
  | beginLoad => exact ⟨u, here, begun, rfl⟩
  | load k =>
    refine ⟨u, ?_, begun, rfl⟩
    rw [move]
    split <;> exact here
  | bind => exact ⟨u, by rwa [move, advance_updates], begun, rfl⟩

/-- Whatever the others do, an update that has got the lock returns once it has taken its steps. -/
theorem update_returns {n : Nat} {u : Update TextureMap ρ} (here : w.textures.updates[n]? = some u)
    (begun : u.phase ≠ .waiting) {moves : List (BindingMove ρ)}
    (enough : u.phase.left ≤ moves.countP (·.isUpdate n)) :
    ∃ u' result, (w.moveAll b r moves).textures.updates[n]? = some u' ∧
      u'.phase = .returned result := by
  induction moves generalizing w u with
  | nil =>
    obtain ⟨result, phase⟩ := UpdatePhase.left_eq_zero.mp (Nat.le_zero.mp enough)
    exact ⟨u, result, here, phase⟩
  | cons m rest ih =>
    obtain ⟨u', here', begun', less⟩ := move_update (b := b) (r := r) here begun m
    refine ih here' begun' ?_
    rw [List.countP_cons] at enough
    omega

end update

section bind

variable {moves : List (BindingMove ρ)}

theorem exists_version {set : Handle} {l : Load} {place : Nat}
    (at_it : ((start o s).moveAll b r moves).phase = .loading set l) (known : l.place? = some place) :
    ∃ map, ((start o s).moveAll b r moves).textures.shared.versions[place]? = some map := by
  obtain ⟨earlier, later, rfl, _, rfl⟩ :=
    moment (fun w l => w.phase = .loading set l) (fun l here => by cases here)
      (fun w m l here => move_phase here) at_it known
  rw [moveAll_append]
  exact ⟨_, version_later _ later⟩

theorem advance_less (notDone : w.phase.left ≠ 0)
    (enters : ∀ set, w.phase = .loading set .waiting → w.textures.shared.writing = false)
    (there : ∀ set l place, w.phase = .loading set l → l.place? = some place →
      ∃ map, w.textures.shared.versions[place]? = some map) :
    (w.advance b r).phase.left < w.phase.left := by
  cases phase : w.phase with
  | waiting =>
    simp only [advance, phase]
    cases (w.object.release b w.backend).result <;> simp [BindPhase.left]
  | released =>
    simp only [advance, phase]
    cases (b.allocate r.pool r.layout w.backend).1 <;> simp [BindPhase.left, Load.left]
  | loading set load =>
    cases arrived : load.arrived? with
    | none =>
      have less := Load.advance_left (v := w.textures.shared) (l := load)
        fun waits => enters set (waits ▸ phase)
      have more := Load.left_pos arrived
      simp only [advance, phase, arrived, BindPhase.left, Sharing.read, less]
      omega
    | some place =>
      obtain ⟨map, version⟩ := there set load place phase (Load.place?_of_arrived? arrived)
      simp [advance, phase, arrived, version, BindPhase.left]
  | done result records => exact absurd (by rw [phase]; rfl) notDone

theorem move_other {m : BindingMove ρ} (other : m.isBind = false) : (w.move b r m).phase = w.phase := by
  cases m with
  | load n =>
    rw [move]
    split <;> rfl
  | bind => cases other
  | _ => rfl

theorem moveAll_done {result : Except Failure Handle} {records : List Record}
    (done : w.phase = .done result records) (later : List (BindingMove ρ)) :
    (w.moveAll b r later).phase = .done result records := by
  induction later generalizing w with
  | nil => exact done
  | cons m rest ih =>
    refine ih ?_
    cases m with
    | bind => rwa [move, advance, done]
    | _ => rwa [move_other rfl]

/-- So is a bind done that has got the lock, with the set that it has allocated. -/
theorem bind_returns {set : Handle} {l : Load} {later : List (BindingMove ρ)}
    (at_it : ((start o s).moveAll b r moves).phase = .loading set l) (got : l ≠ .waiting)
    (enough : l.left + 1 ≤ later.countP (·.isBind)) :
    ∃ records, ((start o s).moveAll b r (moves ++ later)).phase = .done (.ok set) records := by
  induction later generalizing moves l with
  | nil => exact absurd enough (Nat.not_succ_le_zero _)
  | cons m rest ih =>
    rw [List.append_cons]
    rw [List.countP_cons] at enough
    cases own : m.isBind with
    | false =>
      have still := (move_other (b := b) (r := r) own).trans at_it
      rw [← moveAll_concat] at still
      exact ih still got (by simpa [own] using enough)
    | true =>
      obtain rfl : m = .bind := by
        cases m with
        | bind => rfl
        | _ => cases own
      cases arrived : l.arrived? with
      | none =>
        have on : ((start o s).moveAll b r (moves ++ [.bind])).phase = .loading set
            (l.advance ((start o s).moveAll b r moves).textures.shared).2 := by
          rw [moveAll_concat]
          simp only [move, advance, at_it, arrived]
          rfl
        refine ih on (Load.advance_begun _ got) ?_
        have more := Load.left_pos arrived
        rw [Load.advance_left fun waits => absurd waits got]
        rw [if_pos own] at enough
        omega
      | some place =>
        obtain ⟨map, version⟩ := exists_version at_it (Load.place?_of_arrived? arrived)
        refine ⟨slotWarnings map, ?_⟩
        rw [moveAll_append]
        refine moveAll_done ?_ rest
        rw [moveAll_concat]
        simp only [move, advance, at_it, arrived, version]

end bind

section completion

def readers (w : Binding σ ρ) : Nat := (w.loads.map Load.entered).sum + w.phase.entered

def left (w : Binding σ ρ) : Nat :=
  (w.textures.updates.map (·.phase.left)).sum + (w.loads.map Load.left).sum + w.phase.left

theorem advance_reading (counted : w.textures.shared.reading = w.readers) :
    (w.advance b r).textures.shared.reading = (w.advance b r).readers := by
  unfold readers at counted ⊢
  cases phase : w.phase with
  | waiting =>
    simp only [advance, phase, BindPhase.entered] at counted ⊢
    rw [counted]
    cases (w.object.release b w.backend).result <;> rfl
  | released =>
    simp only [advance, phase, BindPhase.entered] at counted ⊢
    rw [counted]
    cases (b.allocate r.pool r.layout w.backend).1 <;> rfl
  | loading set load =>
    cases arrived : load.arrived? with
    | none =>
      simp only [advance, phase, arrived, BindPhase.entered, Sharing.read] at counted ⊢
      have one := Load.advance_reading (v := w.textures.shared) (l := load) (by omega)
      omega
    | some place =>
      have outside : load.entered = 0 := by
        cases load with
        | returned => rfl
        | _ => cases arrived
      cases version : w.textures.shared.versions[place]? with
      | none => simpa only [advance, phase, arrived, version] using counted
      | some map =>
        simp only [advance, phase, arrived, version, BindPhase.entered] at counted ⊢
        omega
  | done result records => simpa only [advance, phase] using counted

theorem move_reading (counted : w.textures.shared.reading = w.readers) (m : BindingMove ρ) :
    (w.move b r m).textures.shared.reading = (w.move b r m).readers := by
  cases m with
  | beginUpdate change => exact counted
  | update n =>
    have same : (w.textures.step n).shared.reading = w.textures.shared.reading := by
      unfold Sharing.step
      split
      · rfl
      · exact Update.advance_reading _ _
    exact same.trans counted
  | beginLoad =>
    unfold readers at counted ⊢
    simp only [move, List.map_append, List.sum_append]
    exact counted
  | load n =>
    rw [move]
    split
    · exact counted
    · rename_i l here
      unfold readers at counted ⊢
      have mem := List.mem_map_of_mem (f := Load.entered) (List.mem_of_getElem? here)
      have low : l.entered ≤ w.textures.shared.reading :=
        counted ▸ Nat.le_add_right_of_le (List.le_sum_of_mem mem)
      have others := sum_map_set Load.entered here (l.advance w.textures.shared).2
      have one := Load.advance_reading low
      simp only [Sharing.read]
      omega
  | bind => exact advance_reading counted

theorem moveAll_reading (b : SetBackend σ) (r : BindRequest) (o : ObjectState) (s : σ)
    (moves : List (BindingMove ρ)) : ((start o s).moveAll b r moves).textures.shared.reading =
      ((start o s).moveAll b r moves).readers := by
  induction moves using List.reverseRecOn with
  | nil => rfl
  | append_singleton front m ih =>
    rw [moveAll_concat]
    exact move_reading ih m

theorem left_eq_zero : w.left = 0 ↔ (∀ u ∈ w.textures.updates, u.phase.left = 0) ∧
    (∀ l ∈ w.loads, l.left = 0) ∧ w.phase.left = 0 := by
  simp [left, List.sum_eq_zero_iff, and_assoc]

theorem move_update_left {n : Nat} {u : Update TextureMap ρ}
    (here : w.textures.updates[n]? = some u) : (w.move b r (.update n)).left + u.phase.left =
      w.left + (u.advance w.textures.shared).2.phase.left := by
  have others := sum_map_set (·.phase.left) here (u.advance w.textures.shared).2
  simp only [left, move, Sharing.step_eq here]
  omega

theorem move_load_left {n : Nat} {l : Load} (here : w.loads[n]? = some l) :
    (w.move b r (.load n)).left + l.left = w.left + (l.advance w.textures.shared).2.left := by
  have others := sum_map_set Load.left here (l.advance w.textures.shared).2
  simp only [left, move, here, Sharing.read]
  omega

theorem move_bind_left : (w.move b r .bind).left + w.phase.left = w.left + (w.advance b r).phase.left := by
  have loads : (w.advance b r).loads = w.loads := by
    unfold advance
    repeat' split
    all_goals rfl
  simp only [left, move, advance_updates, loads]
  omega

theorem begun_update_less {n : Nat} {u : Update TextureMap ρ} (here : w.textures.updates[n]? = some u)
    (begun : u.phase ≠ .waiting) (more : u.phase.left ≠ 0) :
    (w.move b r (.update n)).left < w.left := by
  have less := (Update.advance_begun w.textures.shared begun).2
  have moved := move_update_left (b := b) (r := r) here
  omega

theorem waiting_update_less {n : Nat} {u : Update TextureMap ρ} (here : w.textures.updates[n]? = some u)
    (waits : u.phase = .waiting) (free : w.textures.shared.isFree = true) :
    (w.move b r (.update n)).left < w.left := by
  have locks : (u.advance w.textures.shared).2.phase = .locked := by
    simp [Update.advance, waits, free]
  have moved := move_update_left (b := b) (r := r) here
  simp only [waits, locks, UpdatePhase.left] at moved
  omega

theorem load_less {n : Nat} {l : Load} (here : w.loads[n]? = some l)
    (opened : w.textures.shared.writing = false) (more : l.left ≠ 0) :
    (w.move b r (.load n)).left < w.left := by
  have less := Load.advance_left (v := w.textures.shared) (l := l) fun _ => opened
  have moved := move_load_left (b := b) (r := r) here
  omega

theorem free_of_read (counted : w.textures.shared.reading = w.readers)
    (opened : w.textures.shared.writing = false) (bound : w.phase.left = 0)
    (loaded : ∀ l ∈ w.loads, l.left = 0) : w.textures.shared.isFree = true := by
  have alone : w.textures.shared.reading = 0 := by
    rw [counted, readers, BindPhase.entered_of_left bound, Nat.add_zero]
    refine List.sum_eq_zero ?_
    intro k mem
    obtain ⟨l, inside, rfl⟩ := List.mem_map.mp mem
    exact Load.entered_of_left (loaded l inside)
  simp [SharedValue.isFree, opened, alone]

theorem exists_less {first : TextureMap} (linear : w.textures.Linear first)
    (counted : w.textures.shared.reading = w.readers)
    (there : ∀ set l place, w.phase = .loading set l → l.place? = some place →
      ∃ map, w.textures.shared.versions[place]? = some map) (notDone : w.left ≠ 0) :
    ∃ m : BindingMove ρ, m.isStep = true ∧ (w.move b r m).left < w.left := by
  cases linear.turn with
  | held n u earlier closed here last inside outside =>
    have begun : u.phase ≠ .waiting := (linear.had_turn here).mp (by simp [last])
    refine ⟨.update n, rfl, begun_update_less here begun ?_⟩
    intro noneLeft
    obtain ⟨result, phase⟩ := UpdatePhase.left_eq_zero.mp noneLeft
    exact inside.not_returned phase
  | free opened outside value =>
    by_cases bound : w.phase.left = 0
    · by_cases loaded : ∀ l ∈ w.loads, l.left = 0
      · -- nobody reads, so an update that waits gets the lock
        have free := free_of_read counted opened bound loaded
        have pending : ¬∀ u ∈ w.textures.updates, u.phase.left = 0 := by
          intro updated
          exact notDone (left_eq_zero.mpr ⟨updated, loaded, bound⟩)
        obtain ⟨u, mem, more⟩ : ∃ u ∈ w.textures.updates, u.phase.left ≠ 0 := by simpa using pending
        obtain ⟨n, here⟩ := List.mem_iff_getElem?.mp mem
        cases outside n u here with
        | ahead waits new => exact ⟨.update n, rfl, waiting_update_less here waits free⟩
        | behind earlier later turn phase =>
          exact absurd (UpdatePhase.left_eq_zero.mpr ⟨_, phase⟩) more
      · obtain ⟨l, mem, more⟩ : ∃ l ∈ w.loads, l.left ≠ 0 := by simpa using loaded
        obtain ⟨n, here⟩ := List.mem_iff_getElem?.mp mem
        exact ⟨.load n, rfl, load_less here opened more⟩
    · have less := advance_less (b := b) (r := r) bound (fun _ _ => opened) there
      have moved := move_bind_left (b := b) (r := r) (w := w)
      exact ⟨.bind, rfl, by omega⟩

structure Complete (w : Binding σ ρ) : Prop where
  updates : ∀ u ∈ w.textures.updates, ∃ result, u.phase = .returned result
  loads : ∀ l ∈ w.loads, ∃ place, l = .returned place
  bind : ∃ result records, w.phase = .done result records

theorem complete_of_left (done : w.left = 0) : w.Complete := by
  obtain ⟨updates, loads, bind⟩ := left_eq_zero.mp done
  exact ⟨fun u mem => UpdatePhase.left_eq_zero.mp (updates u mem),
    fun l mem => Load.left_eq_zero.mp (loads l mem), BindPhase.left_eq_zero.mp bind⟩

/-- Whatever has happened so far, steps of those who are on their way bring all of them to an end. -/
theorem moveAll_completes (b : SetBackend σ) (r : BindRequest) (o : ObjectState) (s : σ)
    (moves : List (BindingMove ρ)) : ∃ later : List (BindingMove ρ), (∀ m ∈ later, m.isStep = true) ∧
      later.length ≤ ((start o s).moveAll b r moves).left ∧
        ((start o s).moveAll b r (moves ++ later)).Complete := by
  induction size : ((start o s).moveAll b r moves).left using Nat.strongRecOn generalizing moves with
  | ind size ih =>
    by_cases done : ((start o s).moveAll b r moves).left = 0
    · refine ⟨[], List.forall_mem_nil _, Nat.zero_le _, ?_⟩
      rw [List.append_nil]
      exact complete_of_left done
    · obtain ⟨m, step, less⟩ := exists_less (b := b) (r := r) (linear_moveAll b r o s moves)
        (moveAll_reading b r o s moves) (fun _ _ _ => exists_version) done
      rw [← moveAll_concat, size] at less
      obtain ⟨later, steps, short, complete⟩ := ih _ less (moves ++ [m]) rfl
      refine ⟨m :: later, ?_, ?_, ?_⟩
      · intro k mem
        rcases List.mem_cons.mp mem with rfl | mem
        · exact step
        · exact steps k mem
      · exact Nat.le_trans (Nat.succ_le_succ short) less
      · rwa [List.append_cons]

end completion

end Binding
end ObjectState
end SceneGpu
