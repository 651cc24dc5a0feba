import Mathlib.Data.List.Induction
import SceneGpu.Object.State
import SceneGpu.Proofs.Object.Sharing
/-!
An object whose textures are bound while others publish and read them. A bind reads the map once,
under the lock, so what it writes is one version of the map.
-/
namespace SceneGpu.ObjectState

open Gpu

variable {σ ρ : Type}

structure BindRequest where
  layout : Handle
  pool : Handle
  binding : UInt32

inductive BindPhase where
  | waiting
  | released
  | loading (set : Handle) (load : Load)
  | done (result : Except Failure Handle) (records : List Record)

/-- The textures are shared with those who publish and load them; the rest of the object is the
bind's alone. The batches are what the bind has written, each with its set. -/
structure Binding (σ ρ : Type) where
  object : ObjectState
  backend : σ
  textures : Sharing TextureMap ρ
  loads : List Load
  phase : BindPhase
  batches : List (Handle × List ImageWrite)

inductive BindingMove (ρ : Type) where
  | beginUpdate (change : TextureMap → TextureMap × ρ)
  | update (n : Nat)
  | beginLoad
  | load (n : Nat)
  | bind

namespace Binding

def start (o : ObjectState) (s : σ) : Binding σ ρ := ⟨o, s, .start o.textures, [], .waiting, []⟩

def view (w : Binding σ ρ) : ObjectState := { w.object with textures := w.textures.value }

def advance (b : SetBackend σ) (r : BindRequest) (w : Binding σ ρ) : Binding σ ρ :=
  match w.phase with
  | .waiting =>
    let released := w.object.release b w.backend
    { w with
      object := released.object
      backend := released.backend
      phase := match released.result with
        | .error e => .done (.error e) []
        | .ok () => .released }
  | .released =>
    let allocated := b.allocate r.pool r.layout w.backend
    { w with
      backend := allocated.2
      phase := match allocated.1 with
        | .error e => .done (.error e) []
        | .ok set => .loading set .waiting }
  | .loading set load =>
    match load.arrived? with
    | none =>
      let read := w.textures.read load
      { w with textures := read.1, phase := .loading set read.2 }
    | some place =>
      match w.textures.shared.versions[place]? with
      | none => w
      | some map =>
        { w with
          object := { w.object with textureSet := some ⟨set, r.pool⟩ }
          backend := b.write set (imageWrites r.binding map) w.backend
          batches := w.batches ++ [(set, imageWrites r.binding map)]
          phase := .done (.ok set) (slotWarnings map) }
  | .done _ _ => w

def move (b : SetBackend σ) (r : BindRequest) (w : Binding σ ρ) : BindingMove ρ → Binding σ ρ
  | .beginUpdate change => { w with textures := w.textures.begin change }
  | .update n => { w with textures := w.textures.step n }
  | .beginLoad => { w with loads := w.loads ++ [.waiting] }
  | .load n =>
    match w.loads[n]? with
    | none => w
    | some l =>
      let read := w.textures.read l
      { w with textures := read.1, loads := w.loads.set n read.2 }
  | .bind => w.advance b r

def moveAll (b : SetBackend σ) (r : BindRequest) (w : Binding σ ρ) (moves : List (BindingMove ρ)) :
    Binding σ ρ :=
  moves.foldl (move b r) w

theorem moveAll_concat (b : SetBackend σ) (r : BindRequest) (w : Binding σ ρ)
    (moves : List (BindingMove ρ)) (m : BindingMove ρ) :
    w.moveAll b r (moves ++ [m]) = (w.moveAll b r moves).move b r m := by
  simp [moveAll]

/-- Without anyone else the six steps are a bind. -/
theorem advance_alone (b : SetBackend σ) (r : BindRequest) (o : ObjectState) (s : σ) :
    let w := (start o s : Binding σ ρ).moveAll b r (.replicate 6 .bind)
    let bound := o.bindTextures b r.layout r.pool r.binding s
    w.view = bound.object ∧ w.backend = bound.backend ∧
      w.phase = .done bound.result bound.records := by
  intro w bound
  have same : (o.release b s).object.textures = o.textures := by
    unfold release
    split <;> rfl
  cases released : (o.release b s).result with
  | error e =>
    simp [w, bound, bindTextures, moveAll, List.replicate, move, advance, start, released, view,
      Sharing.value, Sharing.start, SharedValue.value, SharedValue.start, ← same]
  | ok done =>
    cases allocated : (b.allocate r.pool r.layout (o.release b s).backend).1 with
    | error e =>
      simp [w, bound, bindTextures, moveAll, List.replicate, move, advance, start, released,
        allocated, view, Sharing.value, Sharing.start, SharedValue.value, SharedValue.start, ← same]
    | ok set =>
      simp [w, bound, bindTextures, moveAll, List.replicate, move, advance, start, released,
        allocated, view, Sharing.value, Sharing.start, Sharing.read, Load.advance, Load.arrived?,
        SharedValue.value, SharedValue.start, ← same]

/-- Without anyone else the five steps of an update that sets a texture are `setTexture`. -/
theorem update_alone (b : SetBackend σ) (r : BindRequest) (o : ObjectState) (s : σ) (type : String)
    (t : Texture) :
    ((start o s).moveAll b r (.beginUpdate (fun map => (map.insert type t, ())) ::
      .replicate 5 (.update 0))).view = o.setTexture type t := by
  rfl

def seen (w : Binding σ ρ) (n : Nat) : Option TextureMap :=
  w.loads[n]?.bind fun l => l.place?.bind fun place => w.textures.shared.versions[place]?

section move

variable {b : SetBackend σ} {r : BindRequest} {w : Binding σ ρ}

theorem move_textures {P : Sharing TextureMap ρ → Prop} (same : P w.textures)
    (begun : ∀ change, P (w.textures.begin change)) (stepped : ∀ n, P (w.textures.step n))
    (read : ∀ l, P (w.textures.read l).1) (m : BindingMove ρ) : P (w.move b r m).textures := by
  cases m with
  | beginUpdate change => exact begun change
  | update n => exact stepped n
  | beginLoad => exact same
  | load n =>
    simp only [move]
    split
    · exact same
    · exact read _
  | bind =>
    simp only [move, advance]
    split
    · exact same
    · exact same
    · split
      · exact read _
      · split <;> exact same
    · exact same

theorem move_grows (w : Binding σ ρ) (m : BindingMove ρ) :
    w.textures.Grows (w.move b r m).textures :=
  move_textures (P := w.textures.Grows) (.refl _) w.textures.grows_begin w.textures.grows_step
    w.textures.grows_read m

theorem move_loads {m : BindingMove ρ} {n : Nat} {l : Load}
    (here : (w.move b r m).loads[n]? = some l) :
    w.loads[n]? = some l ∨ l = .waiting ∨
      ∃ old, w.loads[n]? = some old ∧ l = (old.advance w.textures.shared).2 := by
  cases m with
  | beginUpdate change => exact .inl here
  | update k => exact .inl here
  | beginLoad =>
    rcases Nat.lt_or_ge n w.loads.length with inside | beyond
    · exact .inl (by simpa [move, List.getElem?_append_left inside] using here)
    · simp only [move, List.getElem?_append_right beyond] at here
      exact .inr (.inl (List.mem_singleton.mp (List.mem_of_getElem? here)))
  | load k =>
    simp only [move] at here
    split at here
    · exact .inl here
    · rename_i old at_k
      rcases eq_or_ne k n with rfl | other
      · have inside := (List.getElem?_eq_some_iff.mp at_k).1
        rw [List.getElem?_set_self inside] at here
        exact .inr (.inr ⟨old, at_k, (Option.some.inj here).symm⟩)
      · rw [List.getElem?_set_ne other] at here
        exact .inl here
  | bind =>
    refine .inl ?_
    simp only [move, advance] at here
    repeat' split at here
    all_goals exact here

theorem move_keeps_place (m : BindingMove ρ) {n place : Nat} {l : Load}
    (here : w.loads[n]? = some l) (known : l.place? = some place) :
    ∃ l', (w.move b r m).loads[n]? = some l' ∧ l'.place? = some place := by
  have inside := (List.getElem?_eq_some_iff.mp here).1
  cases m with
  | beginUpdate change => exact ⟨l, here, known⟩
  | update k => exact ⟨l, here, known⟩
  | beginLoad => exact ⟨l, by simpa [move, List.getElem?_append_left inside] using here, known⟩
  | load k =>
    simp only [move]
    split
    · exact ⟨l, here, known⟩
    · rename_i old at_k
      rcases eq_or_ne k n with rfl | other
      · obtain rfl := Option.some.inj (at_k.symm.trans here)
        exact ⟨_, List.getElem?_set_self inside, Load.place?_kept known⟩
      · exact ⟨l, by rwa [List.getElem?_set_ne other], known⟩
  | bind =>
    refine ⟨l, ?_, known⟩
    simp only [move, advance]
    repeat' split
    all_goals exact here

theorem move_phase {m : BindingMove ρ} {set : Handle} {l : Load}
    (at_it : (w.move b r m).phase = .loading set l) :
    w.phase = .loading set l ∨ l = .waiting ∨
      ∃ old, w.phase = .loading set old ∧ l = (old.advance w.textures.shared).2 := by
  cases m with
  | beginUpdate change => exact .inl at_it
  | update k => exact .inl at_it
  | beginLoad => exact .inl at_it
  | load k =>
    simp only [move] at at_it
    split at at_it <;> exact .inl at_it
  | bind =>
    simp only [move, advance] at at_it
    split at at_it
    · split at at_it <;> cases at_it
    · split at at_it
      · cases at_it
      · cases at_it
        exact .inr (.inl rfl)
    · rename_i old phase
      split at at_it
      · cases at_it
        exact .inr (.inr ⟨old, phase, rfl⟩)
      · split at at_it
        · exact .inl at_it
        · cases at_it
    · exact .inl at_it

theorem move_batches (m : BindingMove ρ) : (w.move b r m).batches = w.batches ∨
    ∃ set l place map, w.phase = .loading set l ∧ l.place? = some place ∧
      w.textures.shared.versions[place]? = some map ∧
        (w.move b r m).batches = w.batches ++ [(set, imageWrites r.binding map)] := by
  cases m with
  | beginUpdate change => exact .inl rfl
  | update k => exact .inl rfl
  | beginLoad => exact .inl rfl
  | load k =>
    refine .inl ?_
    simp only [move]
    split <;> rfl
  | bind =>
    simp only [move, advance]
    split
    · exact .inl rfl
    · exact .inl rfl
    · rename_i set l phase
      split
      · exact .inl rfl
      · rename_i place arrived
        split
        · exact .inl rfl
        · rename_i map there
          exact .inr ⟨set, l, place, map, phase, Load.place?_of_arrived? arrived, there, rfl⟩
    · exact .inl rfl

def Sent (w : Binding σ ρ) : Prop :=
  match w.phase with
  | .done (.ok set) _ => ∃ batch, w.batches = [(set, batch)]
  | .done (.error _) _ => w.batches = []
  | .waiting => w.batches = []
  | .released => w.batches = []
  | .loading _ _ => w.batches = []

theorem sent_move (sent : Sent w) (m : BindingMove ρ) : Sent (w.move b r m) := by
  cases m with
  | beginUpdate change => exact sent
  | update k => exact sent
  | beginLoad => exact sent
  | load k =>
    simp only [move]
    split <;> exact sent
  | bind =>
    simp only [move, advance]
    split <;> rename_i phase
    · simp only [Sent, phase] at sent
      cases released : (w.object.release b w.backend).result <;> exact sent
    · simp only [Sent, phase] at sent
      cases allocated : (b.allocate r.pool r.layout w.backend).1 <;> exact sent
    · have none_yet : w.batches = [] := by simpa only [Sent, phase] using sent
      split
      · exact none_yet
      · split
        · exact sent
        · exact ⟨_, by rw [none_yet]; rfl⟩
    · exact sent

end move

section run

variable {b : SetBackend σ} {r : BindRequest} {o : ObjectState} {s : σ}
variable {moves : List (BindingMove ρ)}

theorem moveAll_append (b : SetBackend σ) (r : BindRequest) (w : Binding σ ρ)
    (earlier later : List (BindingMove ρ)) :
    w.moveAll b r (earlier ++ later) = (w.moveAll b r earlier).moveAll b r later := by
  simp [moveAll]

theorem grows_later (w : Binding σ ρ) (later : List (BindingMove ρ)) :
    w.textures.Grows (w.moveAll b r later).textures := by
  induction later using List.reverseRecOn with
  | nil => exact .refl _
  | append_singleton front m ih =>
    rw [moveAll_concat]
    exact ih.trans (move_grows _ m)

theorem seen_later {w : Binding σ ρ} {n : Nat} {map : TextureMap} (saw : w.seen n = some map)
    (later : List (BindingMove ρ)) : (w.moveAll b r later).seen n = some map := by
  induction later using List.reverseRecOn with
  | nil => exact saw
  | append_singleton front m ih =>
    rw [moveAll_concat]
    simp only [seen, Option.bind_eq_some_iff] at ih ⊢
    obtain ⟨l, here, place, known, there⟩ := ih
    obtain ⟨l', here', known'⟩ := move_keeps_place (b := b) (r := r) m here known
    obtain ⟨more, grown⟩ := (move_grows (b := b) (r := r) (w.moveAll b r front) m).versions
    refine ⟨l', here', place, known', ?_⟩
    rw [← grown]
    exact List.getElem?_append_left (List.getElem?_eq_some_iff.mp there).1 ▸ there

/-- What a reader has got hold of was current while that reader had the lock. -/
theorem moment (stands : Binding σ ρ → Load → Prop) (fresh : ∀ l, ¬stands (start o s) l)
    (steps : ∀ w m l, stands (w.move b r m) l →
      stands w l ∨ l = .waiting ∨ ∃ old, stands w old ∧ l = (old.advance w.textures.shared).2)
    {place : Nat} {l : Load} (here : stands ((start o s).moveAll b r moves) l)
    (known : l.place? = some place) :
    ∃ earlier later, moves = earlier ++ later ∧
      stands ((start o s).moveAll b r earlier) .locked ∧
        ((start o s).moveAll b r earlier).textures.shared.current = place := by
  -- From the end: the last step either took the place, or the reader had it before.
  induction moves using List.reverseRecOn generalizing l with
  | nil => exact absurd here (fresh l)
  | append_singleton front m ih =>
    have before : ∀ l, stands ((start o s).moveAll b r front) l → l.place? = some place →
        ∃ earlier later, front ++ [m] = earlier ++ later ∧
          stands ((start o s).moveAll b r earlier) .locked ∧
            ((start o s).moveAll b r earlier).textures.shared.current = place := by
      intro l here known
      obtain ⟨earlier, later, rfl, had⟩ := ih here known
      exact ⟨earlier, later ++ [m], by simp, had⟩
    rw [moveAll_concat] at here
    rcases steps _ m l here with same | rfl | ⟨old, stood, rfl⟩
    · exact before l same known
    · cases known
    · rcases Load.place?_advance known with had | ⟨rfl, taken⟩
      · exact before old stood had
      · exact ⟨front, [m], rfl, stood, taken⟩

theorem version_later (w : Binding σ ρ) (later : List (BindingMove ρ)) :
    (w.moveAll b r later).textures.shared.versions[w.textures.shared.current]? =
      some w.textures.value := by
  obtain ⟨more, grown⟩ := (grows_later (b := b) (r := r) w later).versions
  rw [← grown, List.getElem?_append_left w.textures.shared.there]
  exact w.textures.shared.versions_current

theorem load_moment {n place : Nat} {l : Load}
    (here : ((start o s).moveAll b r moves).loads[n]? = some l) (known : l.place? = some place) :
    ∃ earlier later, moves = earlier ++ later ∧
      ((start o s).moveAll b r earlier).loads[n]? = some .locked ∧
        ((start o s).moveAll b r moves).seen n =
          some ((start o s).moveAll b r earlier).textures.value := by
  obtain ⟨earlier, later, rfl, locked, rfl⟩ :=
    moment (fun w l => w.loads[n]? = some l) (fun l here => by simp [start] at here)
      (fun w m l here => move_loads here) here known
  refine ⟨earlier, later, rfl, locked, ?_⟩
  simp only [seen, here, Option.bind_some, known]
  rw [moveAll_append]
  exact version_later _ later

theorem batch_moment {sent : Handle × List ImageWrite}
    (mem : sent ∈ ((start o s).moveAll b r moves).batches) :
    ∃ earlier later, moves = earlier ++ later ∧
      ((start o s).moveAll b r earlier).phase = .loading sent.1 .locked ∧
        sent.2 = imageWrites r.binding ((start o s).moveAll b r earlier).textures.value := by
  induction moves using List.reverseRecOn with
  | nil => simp [moveAll, start] at mem
  | append_singleton front m ih =>
    have before : sent ∈ ((start o s).moveAll b r front).batches →
        ∃ earlier later, front ++ [m] = earlier ++ later ∧
          ((start o s).moveAll b r earlier).phase = .loading sent.1 .locked ∧
            sent.2 = imageWrites r.binding ((start o s).moveAll b r earlier).textures.value := by
      intro mem
      obtain ⟨earlier, later, rfl, wrote⟩ := ih mem
      exact ⟨earlier, later ++ [m], by simp, wrote⟩
    rw [moveAll_concat] at mem
    rcases move_batches (b := b) (r := r) (w := (start o s).moveAll b r front) m with
      same | ⟨set, l, place, map, phase, known, there, wrote⟩
    · exact before (same ▸ mem)
    · rw [wrote] at mem
      rcases List.mem_append.mp mem with old | new
      · exact before old
      · -- what was written just now is what the bind got hold of before
        obtain rfl := List.mem_singleton.mp new
        obtain ⟨earlier, later, rfl, locked, rfl⟩ :=
          moment (fun w l => w.phase = .loading set l) (fun l here => by cases here)
            (fun w m l here => move_phase here) phase known
        refine ⟨earlier, later ++ [m], by simp, locked, ?_⟩
        rw [moveAll_append, version_later, Option.some.injEq] at there
        rw [there]

theorem linear_moveAll (b : SetBackend σ) (r : BindRequest) (o : ObjectState) (s : σ)
    (moves : List (BindingMove ρ)) :
    (((start o s).moveAll b r moves).textures).Linear o.textures := by
  induction moves using List.reverseRecOn with
  | nil => exact Sharing.linear_start
  | append_singleton front m ih =>
    rw [moveAll_concat]
    exact move_textures (P := Sharing.Linear o.textures) ih ih.begin ih.step ih.read m

theorem sent_moveAll (b : SetBackend σ) (r : BindRequest) (o : ObjectState) (s : σ)
    (moves : List (BindingMove ρ)) : Sent ((start o s).moveAll b r moves) := by
  induction moves using List.reverseRecOn with
  | nil => rfl
  | append_singleton front m ih =>
    rw [moveAll_concat]
    exact sent_move ih m

end run

/-- What an interleaving has come to, told by the states in which it was on its way. -/
structure Linearized (binding : UInt32) (first : TextureMap)
    (run : List (BindingMove ρ) → Binding σ ρ) (moves : List (BindingMove ρ)) : Prop where
  once : (run moves).textures.order.Nodup
  turns : ∀ n u, (run moves).textures.updates[n]? = some u →
    (n ∈ (run moves).textures.order ↔ u.phase ≠ .waiting)
  inTurn : ∀ earlier later, moves = earlier ++ later →
    (run earlier).textures.order <+: (run moves).textures.order
  between : (run moves).textures.shared.writing = false → (run moves).textures.value =
    applied (run moves).textures.changes first (run moves).textures.order
  complete : (∀ u ∈ (run moves).textures.updates, ∃ result, u.phase = .returned result) →
    (run moves).textures.order.Perm (List.range (run moves).textures.updates.length) ∧
      (run moves).textures.value =
        applied (run moves).textures.changes first (run moves).textures.order
  answers : ∀ n u result, (run moves).textures.updates[n]? = some u → u.phase = .returned result →
    ∃ earlier later, (run moves).textures.order = earlier ++ n :: later ∧
      result = (u.change (applied (run moves).textures.changes first earlier)).2
  loaded : ∀ n place, (run moves).loads[n]? = some (.returned place) →
    ∃ earlier later, moves = earlier ++ later ∧ (run earlier).loads[n]? = some .locked ∧
      (run moves).seen n = some (run earlier).textures.value
  kept : ∀ earlier later n map, moves = earlier ++ later → (run earlier).seen n = some map →
    (run moves).seen n = some map
  batch : ∀ set writes, (set, writes) ∈ (run moves).batches →
    ∃ earlier later, moves = earlier ++ later ∧ (run earlier).phase = .loading set .locked ∧
      List.Forall₂ (fun entry write => write = .ofTexture binding entry.1 entry.2)
        (run earlier).textures.value.entries writes
  sent : Sent (run moves)

theorem moveAll_linearized (b : SetBackend σ) (r : BindRequest) (o : ObjectState) (s : σ)
    (moves : List (BindingMove ρ)) :
    Linearized r.binding o.textures ((start o s).moveAll b r) moves := by
  have linear := linear_moveAll b r o s moves
  constructor
  case once => exact linear.once
  case turns => exact fun n u here => linear.had_turn here
  case inTurn =>
    rintro earlier later rfl
    rw [moveAll_append]
    exact (grows_later _ later).order
  case between => exact linear.value_free
  case complete => exact linear.complete
  case answers => exact fun n u result here phase => linear.answer here phase
  case loaded => exact fun n place here => load_moment here rfl
  case kept =>
    rintro earlier later n map rfl saw
    rw [moveAll_append]
    exact seen_later saw later
  case batch =>
    intro set writes mem
    obtain ⟨earlier, later, split, locked, rfl⟩ := batch_moment mem
    refine ⟨earlier, later, split, locked, ?_⟩
    simp [imageWrites, List.forall₂_map_right_iff, List.forall₂_same]
  case sent => exact sent_moveAll b r o s moves

/- An update that begins last gets the lock first. The load and the bind wait for it, and the other update
waits for them. -/
namespace TwoUpdates

def sets : SetBackend Unit := ⟨fun _ _ s => (.ok 5, s), fun _ _ s => (.ok (), s), fun _ _ s => s⟩

def diffuse : Texture := ⟨7, 8, 9⟩

def normal : Texture := ⟨4, 5, 6⟩

def put (type : String) (t : Texture) (map : TextureMap) : TextureMap × Nat :=
  (map.insert type t, map.entries.length)

def moves : List (BindingMove Nat) :=
  [.beginUpdate (put "diffuse" diffuse), .beginUpdate (put "normal" normal), .beginLoad, .update 1,
    .load 0, .update 0, .bind, .bind, .bind] ++ .replicate 4 (.update 1) ++
  [.bind, .load 0, .update 0, .bind, .load 0, .bind, .bind, .load 0] ++ .replicate 5 (.update 0)

def run (moves : List (BindingMove Nat)) : Binding Unit Nat := (start {} ()).moveAll sets ⟨1, 2, 0⟩ moves

end TwoUpdates

open TwoUpdates in
theorem moveAll_linearized_two_updates :
    Linearized 0 .empty run moves ∧ (run moves).textures.order = [1, 0] ∧
      (run moves).textures.updates.map (·.phase) = [.returned 1, .returned 0] ∧
      (run moves).textures.value.entries = [("diffuse", diffuse), ("normal", normal)] ∧
      (run moves).loads = [.returned 1] ∧ (run moves).seen 0 = some ⟨[("normal", normal)]⟩ ∧
      (run moves).batches = [(5, [⟨0, 3, 5, 6, readOnlyLayout⟩])] := by
  have linearized := moveAll_linearized sets ⟨1, 2, 0⟩ {} () moves
  exact ⟨linearized, rfl, rfl, rfl, rfl, rfl, rfl⟩

end Binding
end SceneGpu.ObjectState
