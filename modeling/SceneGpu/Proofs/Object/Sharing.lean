import Mathlib.Data.List.Nodup
import Mathlib.Data.List.Perm.Basic
/-!
A value that threads share and replace as a whole, at the grain of its lock. An update holds the lock
alone while it copies the value, changes the copy and puts it in the value's place. So updates take
effect one after the other, in the order in which they got the lock.
-/
namespace SceneGpu

variable {τ ρ : Type}

/-- The versions of a value, each in a place of its own, and the place of the current one. The lock
is held by one writer or by a number of readers. -/
structure SharedValue (τ : Type) where
  versions : List τ
  current : Nat
  writing : Bool
  reading : Nat
  there : current < versions.length

namespace SharedValue

def start (first : τ) : SharedValue τ := ⟨[first], 0, false, 0, Nat.zero_lt_one⟩

def value (v : SharedValue τ) : τ := v.versions.get ⟨v.current, v.there⟩

def isFree (v : SharedValue τ) : Bool := !v.writing && v.reading == 0

def publish (v : SharedValue τ) (next : τ) : SharedValue τ :=
  { v with versions := v.versions ++ [next], current := v.versions.length, there := by simp }

theorem value_publish (v : SharedValue τ) (next : τ) : (v.publish next).value = next := by
  simp [value, publish]

theorem versions_current (v : SharedValue τ) : v.versions[v.current]? = some v.value :=
  List.getElem?_eq_getElem v.there

end SharedValue

/-- How far an update has come. It waits for the lock, has it, has copied the value, has changed the
copy, has put it in the value's place, and has given the lock back. -/
inductive UpdatePhase (τ ρ : Type) where
  | waiting
  | locked
  | copied (copy : τ)
  | changed (copy : τ) (result : ρ)
  | swapped (result : ρ)
  | returned (result : ρ)

structure Update (τ ρ : Type) where
  change : τ → τ × ρ
  phase : UpdatePhase τ ρ

def Update.advance (v : SharedValue τ) (u : Update τ ρ) : SharedValue τ × Update τ ρ :=
  match u.phase with
  | .waiting =>
    if v.isFree then ({ v with writing := true }, { u with phase := .locked }) else (v, u)
  | .locked => (v, { u with phase := .copied v.value })
  | .copied copy => (v, { u with phase := .changed (u.change copy).1 (u.change copy).2 })
  | .changed copy result => (v.publish copy, { u with phase := .swapped result })
  | .swapped result => ({ v with writing := false }, { u with phase := .returned result })
  | .returned _ => (v, u)

inductive Load where
  | waiting
  | locked
  | taken (place : Nat)
  | returned (place : Nat)
deriving DecidableEq, Repr

namespace Load

def advance (v : SharedValue τ) : Load → SharedValue τ × Load
  | .waiting => if v.writing then (v, .waiting) else ({ v with reading := v.reading + 1 }, .locked)
  | .locked => (v, .taken v.current)
  | .taken place => ({ v with reading := v.reading - 1 }, .returned place)
  | .returned place => (v, .returned place)

def place? : Load → Option Nat
  | .waiting => none
  | .locked => none
  | .taken place => some place
  | .returned place => some place

theorem advance_value (v : SharedValue τ) (l : Load) :
    ∃ n, (l.advance v).1 = { v with reading := n } := by
  cases l with
  | waiting =>
    simp only [advance]
    split
    · exact ⟨v.reading, rfl⟩
    · exact ⟨v.reading + 1, rfl⟩
  | locked => exact ⟨v.reading, rfl⟩
  | taken place => exact ⟨v.reading - 1, rfl⟩
  | returned place => exact ⟨v.reading, rfl⟩

theorem place?_advance {v : SharedValue τ} {l : Load} {place : Nat}
    (known : (l.advance v).2.place? = some place) :
    l.place? = some place ∨ (l = .locked ∧ v.current = place) := by
  cases l with
  | waiting =>
    simp only [advance] at known
    split at known <;> cases known
  | locked => exact .inr ⟨rfl, Option.some.inj known⟩
  | taken place => exact .inl known
  | returned place => exact .inl known

theorem place?_kept {v : SharedValue τ} {l : Load} {place : Nat} (known : l.place? = some place) :
    (l.advance v).2.place? = some place := by
  cases l with
  | waiting => cases known
  | locked => cases known
  | taken kept => exact known
  | returned kept => exact known

def arrived? : Load → Option Nat
  | .returned place => some place
  | .waiting => none
  | .locked => none
  | .taken _ => none

theorem place?_of_arrived? {l : Load} {place : Nat} (arrived : l.arrived? = some place) :
    l.place? = some place := by
  cases l with
  | returned kept => exact arrived
  | waiting => cases arrived
  | locked => cases arrived
  | taken kept => cases arrived

end Load

/-- A shared value with the updates that were ever begun on it, and which of them got the lock, in
the order in which they got it. -/
structure Sharing (τ ρ : Type) where
  shared : SharedValue τ
  updates : List (Update τ ρ)
  order : List Nat

def applied (changes : List (τ → τ × ρ)) (first : τ) (order : List Nat) : τ :=
  order.foldl (fun t n => match changes[n]? with
    | none => t
    | some change => (change t).1) first

theorem applied_concat {changes : List (τ → τ × ρ)} {n : Nat} {change : τ → τ × ρ}
    (here : changes[n]? = some change) (first : τ) (order : List Nat) :
    applied changes first (order ++ [n]) = (change (applied changes first order)).1 := by
  simp [applied, here]

theorem applied_append {changes : List (τ → τ × ρ)} (more : List (τ → τ × ρ)) (first : τ)
    {order : List Nat} (known : ∀ n ∈ order, n < changes.length) :
    applied (changes ++ more) first order = applied changes first order := by
  induction order generalizing first with
  | nil => rfl
  | cons n rest ih =>
    have inside := known n List.mem_cons_self
    simp only [applied, List.foldl_cons, List.getElem?_append_left inside]
    exact ih _ fun k mem => known k (List.mem_cons_of_mem n mem)

namespace Sharing

def start (first : τ) : Sharing τ ρ := ⟨.start first, [], []⟩

def value (s : Sharing τ ρ) : τ := s.shared.value

def changes (s : Sharing τ ρ) : List (τ → τ × ρ) := s.updates.map Update.change

def begin (s : Sharing τ ρ) (change : τ → τ × ρ) : Sharing τ ρ :=
  { s with updates := s.updates ++ [⟨change, .waiting⟩] }

def step (s : Sharing τ ρ) (n : Nat) : Sharing τ ρ :=
  match s.updates[n]? with
  | none => s
  | some u =>
    let r := u.advance s.shared
    let locks := !s.shared.writing && r.1.writing
    ⟨r.1, s.updates.set n r.2, if locks then s.order ++ [n] else s.order⟩

def read (s : Sharing τ ρ) (l : Load) : Sharing τ ρ × Load :=
  let r := l.advance s.shared
  ({ s with shared := r.1 }, r.2)

section step

variable {s : Sharing τ ρ} {n : Nat} {u : Update τ ρ} (here : s.updates[n]? = some u)

include here

theorem step_eq : s.step n = ⟨(u.advance s.shared).1, s.updates.set n (u.advance s.shared).2,
    if !s.shared.writing && (u.advance s.shared).1.writing then s.order ++ [n] else s.order⟩ := by
  simp only [step, here]

theorem step_idle (idle : u.advance s.shared = (s.shared, u)) : s.step n = s := by
  obtain ⟨inside, rfl⟩ := List.getElem?_eq_some_iff.mp here
  simp [step_eq here, idle]

theorem changes_here : s.changes[n]? = some u.change := by
  simp [changes, here]

theorem changes_set (v : SharedValue τ) (phase : UpdatePhase τ ρ) (order : List Nat) :
    changes ⟨v, s.updates.set n ⟨u.change, phase⟩, order⟩ = s.changes := by
  obtain ⟨inside, at_n⟩ := List.getElem?_eq_some_iff.mp (changes_here here)
  rw [changes, List.map_set, ← at_n]
  exact List.set_getElem_self inside

theorem updates_set (u' : Update τ ρ) : (s.updates.set n u')[n]? = some u' :=
  List.getElem?_set_self (List.getElem?_eq_some_iff.mp here).1

end step

structure Grows (s t : Sharing τ ρ) : Prop where
  versions : s.shared.versions <+: t.shared.versions
  order : s.order <+: t.order

theorem Grows.refl (s : Sharing τ ρ) : Grows s s := ⟨List.prefix_refl _, List.prefix_refl _⟩

theorem Grows.trans {s t u : Sharing τ ρ} (first : Grows s t) (second : Grows t u) : Grows s u :=
  ⟨first.versions.trans second.versions, first.order.trans second.order⟩

theorem grows_begin (s : Sharing τ ρ) (change : τ → τ × ρ) : Grows s (s.begin change) :=
  ⟨List.prefix_refl _, List.prefix_refl _⟩

theorem grows_step (s : Sharing τ ρ) (n : Nat) : Grows s (s.step n) := by
  cases here : s.updates[n]? with
  | none => simpa only [step, here] using Grows.refl s
  | some u =>
    rw [step_eq here]
    constructor
    · unfold Update.advance
      cases u.phase with
      | waiting => dsimp only; split <;> exact List.prefix_refl _
      | changed copy result => exact List.prefix_append _ _
      | locked => exact List.prefix_refl _
      | copied copy => exact List.prefix_refl _
      | swapped result => exact List.prefix_refl _
      | returned result => exact List.prefix_refl _
    · dsimp only
      split
      · exact List.prefix_append _ _
      · exact List.prefix_refl _

theorem grows_read (s : Sharing τ ρ) (l : Load) : Grows s (s.read l).1 := by
  obtain ⟨n, entered⟩ := l.advance_value s.shared
  simp only [read, entered]
  exact ⟨List.prefix_refl _, List.prefix_refl _⟩

/-- An update that is not at it: it had no turn yet, or has returned what its change gives on the
value that those before it left. -/
inductive Outside (changes : List (τ → τ × ρ)) (first : τ) (order : List Nat) (n : Nat)
    (u : Update τ ρ) : Prop
  | ahead (phase : u.phase = .waiting) (new : n ∉ order)
  | behind (earlier later : List Nat) (turn : order = earlier ++ n :: later)
      (phase : u.phase = .returned (u.change (applied changes first earlier)).2)

inductive Inside (given now : τ) (u : Update τ ρ) : Prop
  | locked (phase : u.phase = .locked) (still : now = given)
  | copied (phase : u.phase = .copied given) (still : now = given)
  | changed (phase : u.phase = .changed (u.change given).1 (u.change given).2) (still : now = given)
  | swapped (phase : u.phase = .swapped (u.change given).2) (new : now = (u.change given).1)

/-- Either nobody holds the lock, or the update that got it last does. -/
inductive Turn (first : τ) (s : Sharing τ ρ) : Prop
  | free (opened : s.shared.writing = false)
      (outside : ∀ k w, s.updates[k]? = some w → Outside s.changes first s.order k w)
      (value : s.value = applied s.changes first s.order)
  | held (n : Nat) (u : Update τ ρ) (earlier : List Nat) (closed : s.shared.writing = true)
      (here : s.updates[n]? = some u) (last : s.order = earlier ++ [n])
      (inside : Inside (applied s.changes first earlier) s.value u)
      (outside : ∀ k w, k ≠ n → s.updates[k]? = some w → Outside s.changes first s.order k w)

structure Linear (first : τ) (s : Sharing τ ρ) : Prop where
  once : s.order.Nodup
  known : ∀ n ∈ s.order, n < s.changes.length
  turn : Turn first s

section linear

variable {first : τ} {s : Sharing τ ρ}

theorem linear_start : Linear first (start first : Sharing τ ρ) :=
  ⟨.nil, fun n impossible => (List.not_mem_nil impossible).elim,
    .free rfl (fun k w impossible => by simp [start] at impossible) rfl⟩

theorem Linear.read (linear : Linear first s) (l : Load) : Linear first (s.read l).1 := by
  obtain ⟨n, entered⟩ := l.advance_value s.shared
  have still : (s.read l).1 = { s with shared := { s.shared with reading := n } } := by
    simp only [Sharing.read, entered]
  rw [still]
  refine ⟨linear.once, linear.known, ?_⟩
  cases linear.turn with
  | free opened outside value => exact .free opened outside value
  | held n u earlier closed here last inside outside =>
    exact .held n u earlier closed here last inside outside

theorem Outside.append {changes : List (τ → τ × ρ)} {order : List Nat} {n : Nat} {u : Update τ ρ}
    (more : List (τ → τ × ρ)) (known : ∀ n ∈ order, n < changes.length)
    (outside : Outside changes first order n u) : Outside (changes ++ more) first order n u := by
  cases outside with
  | ahead phase new => exact .ahead phase new
  | behind earlier later turn phase =>
    refine .behind earlier later turn ?_
    rw [applied_append more first fun k mem => known k (turn ▸ List.mem_append_left _ mem), phase]

theorem Outside.next {changes : List (τ → τ × ρ)} {order : List Nat} {k n : Nat} {u : Update τ ρ}
    (other : k ≠ n) (outside : Outside changes first order k u) :
    Outside changes first (order ++ [n]) k u := by
  cases outside with
  | ahead phase new =>
    refine .ahead phase ?_
    simpa using ⟨new, other⟩
  | behind earlier later turn phase => exact .behind earlier (later ++ [n]) (by simp [turn]) phase

theorem Linear.begin (linear : Linear first s) (change : τ → τ × ρ) :
    Linear first (s.begin change) := by
  have grown : (s.begin change).changes = s.changes ++ [change] := by
    simp [Sharing.begin, changes]
  have known := linear.known
  have size : s.changes.length = s.updates.length := List.length_map _
  have outside : ∀ k w, (s.begin change).updates[k]? = some w →
      (s.updates[k]? = some w → Outside s.changes first s.order k w) →
        Outside (s.begin change).changes first s.order k w := by
    intro k w at_k old
    rw [grown]
    rcases Nat.lt_or_ge k s.updates.length with inside | beyond
    · refine (old ?_).append _ known
      simpa [Sharing.begin, List.getElem?_append_left inside] using at_k
    · -- the new update is the last one, and nobody has had a turn beyond the old ones
      have alone : [(⟨change, .waiting⟩ : Update τ ρ)][k - s.updates.length]? = some w := by
        simpa [Sharing.begin, List.getElem?_append_right beyond] using at_k
      obtain ⟨-, rfl⟩ : k - s.updates.length = 0 ∧ w = ⟨change, .waiting⟩ := by
        cases e : k - s.updates.length with
        | zero => simpa [e, eq_comm] using alone
        | succ j => simp [e] at alone
      exact .ahead rfl fun mem => by have := known k mem; omega
  refine ⟨linear.once, ?_, ?_⟩
  · intro n mem
    rw [grown, List.length_append]
    exact Nat.lt_of_lt_of_le (known n mem) (Nat.le_add_right _ _)
  · cases linear.turn with
    | free opened all value =>
      refine .free opened (fun k w at_k => outside k w at_k (all k w)) ?_
      rw [grown]
      exact value.trans (applied_append _ first known).symm
    | held n u earlier closed here last inside all =>
      have low := (List.getElem?_eq_some_iff.mp here).1
      refine .held n u earlier closed ?_ last ?_ fun k w other at_k =>
        outside k w at_k (all k w other)
      · simpa [Sharing.begin, List.getElem?_append_left low] using here
      · rw [grown, applied_append _ first fun k mem => known k (last ▸ List.mem_append_left _ mem)]
        exact inside

section step

variable {n : Nat} {u : Update τ ρ}

theorem Outside.idle_closed (closed : s.shared.writing = true)
    (outside : Outside s.changes first s.order n u) : u.advance s.shared = (s.shared, u) := by
  cases outside with
  | ahead phase new => simp [Update.advance, phase, SharedValue.isFree, closed]
  | behind earlier later turn phase => simp [Update.advance, phase]

theorem Linear.lock (linear : Linear first s) (here : s.updates[n]? = some u)
    (opened : s.shared.writing = false)
    (outside : ∀ k w, s.updates[k]? = some w → Outside s.changes first s.order k w)
    (value : s.value = applied s.changes first s.order)
    (waits : u.phase = .waiting) (new : n ∉ s.order) : Linear first (s.step n) := by
  by_cases read : s.shared.reading = 0
  · have moved : s.step n = ⟨{ s.shared with writing := true },
        s.updates.set n ⟨u.change, .locked⟩, s.order ++ [n]⟩ := by
      simp [step_eq here, Update.advance, waits, SharedValue.isFree, opened, read]
    have same := changes_set here { s.shared with writing := true } .locked (s.order ++ [n])
    rw [moved]
    refine ⟨?_, ?_, .held n ⟨u.change, .locked⟩ s.order rfl (updates_set here _) rfl ?_ ?_⟩
    · simpa [List.nodup_append] using ⟨linear.once, fun k mem => fun e => new (e ▸ mem)⟩
    · intro k mem
      rw [same]
      rcases List.mem_append.mp mem with before | last
      · exact linear.known k before
      · obtain rfl := List.mem_singleton.mp last
        exact (List.getElem?_eq_some_iff.mp (changes_here here)).1
    · rw [same]
      exact .locked rfl value
    · intro k w other at_k
      rw [same]
      exact (outside k w (by rwa [List.getElem?_set_ne other.symm] at at_k)).next other
  · rw [step_idle here (by simp [Update.advance, waits, SharedValue.isFree, opened, read])]
    exact linear

theorem Linear.work (linear : Linear first s) {earlier : List Nat} {given : τ}
    (closed : s.shared.writing = true) (here : s.updates[n]? = some u)
    (last : s.order = earlier ++ [n]) (made : applied s.changes first earlier = given)
    (inside : Inside given s.value u)
    (outside : ∀ k w, k ≠ n → s.updates[k]? = some w → Outside s.changes first s.order k w) :
    Linear first (s.step n) := by
  have outside : ∀ phase k w, k ≠ n → (s.updates.set n ⟨u.change, phase⟩)[k]? = some w →
      Outside s.changes first s.order k w := by
    intro phase k w other at_k
    rw [List.getElem?_set_ne other.symm] at at_k
    exact outside k w other at_k
  have kept : ∀ (v : SharedValue τ) (phase : UpdatePhase τ ρ), v.writing = true →
      Inside given v.value ⟨u.change, phase⟩ →
        Linear first ⟨v, s.updates.set n ⟨u.change, phase⟩, s.order⟩ := by
    intro v phase still inside
    refine ⟨linear.once, ?_, .held n ⟨u.change, phase⟩ earlier still (updates_set here _) last ?_ ?_⟩
    · simpa only [changes_set here] using linear.known
    · rw [changes_set here, made]
      exact inside
    · rw [changes_set here]
      exact outside phase
  cases inside with
  | locked phase still =>
    have moved : s.step n = ⟨s.shared, s.updates.set n ⟨u.change, .copied given⟩, s.order⟩ := by
      simp [step_eq here, Update.advance, phase, closed, ← still, value]
    rw [moved]
    exact kept _ _ closed (.copied rfl still)
  | copied phase still =>
    have moved : s.step n = ⟨s.shared,
        s.updates.set n ⟨u.change, .changed (u.change given).1 (u.change given).2⟩, s.order⟩ := by
      simp [step_eq here, Update.advance, phase, closed]
    rw [moved]
    exact kept _ _ closed (.changed rfl still)
  | changed phase still =>
    have moved : s.step n = ⟨s.shared.publish (u.change given).1,
        s.updates.set n ⟨u.change, .swapped (u.change given).2⟩, s.order⟩ := by
      simp [step_eq here, Update.advance, phase, closed]
    rw [moved]
    exact kept _ _ closed (.swapped rfl (SharedValue.value_publish _ _))
  | swapped phase new =>
    have moved : s.step n = ⟨{ s.shared with writing := false },
        s.updates.set n ⟨u.change, .returned (u.change given).2⟩, s.order⟩ := by
      simp [step_eq here, Update.advance, phase, closed]
    rw [moved]
    refine ⟨linear.once, ?_, .free rfl ?_ ?_⟩
    · simpa only [changes_set here] using linear.known
    · intro k w at_k
      rw [changes_set here]
      rcases eq_or_ne k n with rfl | other
      · obtain rfl := Option.some.inj ((updates_set here _).symm.trans at_k)
        exact .behind earlier [] last (by rw [made])
      · exact outside _ k w other at_k
    · simp only [changes_set here, last]
      rw [applied_concat (changes_here here), made]
      exact new

theorem Linear.step (linear : Linear first s) (n : Nat) : Linear first (s.step n) := by
  cases here : s.updates[n]? with
  | none => simpa only [Sharing.step, here] using linear
  | some u =>
  -- Only the holder of the lock and, while nobody has it, those who wait can change anything.
  cases linear.turn with
  | free opened outside value =>
    cases outside n u here with
    | ahead phase new => exact linear.lock here opened outside value phase new
    | behind earlier later turn phase =>
      rw [step_idle here (by simp [Update.advance, phase])]
      exact linear
  | held m w earlier closed at_m last inside outside =>
    rcases eq_or_ne n m with rfl | apart
    · obtain rfl := Option.some.inj (at_m.symm.trans here)
      exact linear.work closed here last rfl inside outside
    · rw [step_idle here ((outside n u apart here).idle_closed closed)]
      exact linear

end step

section ends

variable {n : Nat} {u : Update τ ρ} {result : ρ}

theorem Inside.not_returned {given now : τ} (inside : Inside given now u) :
    u.phase ≠ .returned result := by
  intro phase
  cases inside <;> simp_all

theorem Linear.answer (linear : Linear first s) (here : s.updates[n]? = some u)
    (phase : u.phase = .returned result) : ∃ earlier later, s.order = earlier ++ n :: later ∧
      result = (u.change (applied s.changes first earlier)).2 := by
  have outside : Outside s.changes first s.order n u := by
    cases linear.turn with
    | free opened outside value => exact outside n u here
    | held m w earlier closed at_m last inside outside =>
      refine outside n u ?_ here
      rintro rfl
      obtain rfl := Option.some.inj (at_m.symm.trans here)
      exact inside.not_returned phase
  cases outside with
  | ahead waits new => simp [phase] at waits
  | behind earlier later turn gave =>
    refine ⟨earlier, later, turn, ?_⟩
    simpa using phase.symm.trans gave

theorem Linear.had_turn (linear : Linear first s) (here : s.updates[n]? = some u) :
    n ∈ s.order ↔ u.phase ≠ .waiting := by
  have of_outside : Outside s.changes first s.order n u → (n ∈ s.order ↔ u.phase ≠ .waiting) := by
    intro outside
    cases outside with
    | ahead phase new => simp [phase, new]
    | behind earlier later turn phase => simp [phase, turn]
  cases linear.turn with
  | free opened outside value => exact of_outside (outside n u here)
  | held m w earlier closed at_m last inside outside =>
    rcases eq_or_ne n m with rfl | other
    · obtain rfl := Option.some.inj (at_m.symm.trans here)
      have begun : w.phase ≠ .waiting := by
        intro waits
        cases inside <;> simp_all
      simp [last, begun]
    · exact of_outside (outside n u other here)

theorem Linear.value_free (linear : Linear first s) (opened : s.shared.writing = false) :
    s.value = applied s.changes first s.order := by
  cases linear.turn with
  | free opened outside value => exact value
  | held m w earlier closed at_m last inside outside => simp [opened] at closed

theorem Linear.complete (linear : Linear first s)
    (all : ∀ u ∈ s.updates, ∃ result, u.phase = .returned result) :
    s.order.Perm (List.range s.updates.length) ∧ s.value = applied s.changes first s.order := by
  constructor
  · rw [List.perm_ext_iff_of_nodup linear.once List.nodup_range]
    intro n
    rw [List.mem_range]
    constructor
    · intro mem
      simpa [changes] using linear.known n mem
    · intro inside
      have here := List.getElem?_eq_getElem inside
      obtain ⟨result, phase⟩ := all _ (List.mem_of_getElem? here)
      obtain ⟨earlier, later, turn, -⟩ := linear.answer here phase
      rw [turn]
      exact List.mem_append_right _ List.mem_cons_self
  · cases linear.turn with
    | free opened outside value => exact value
    | held m w earlier closed at_m last inside outside =>
      obtain ⟨result, phase⟩ := all w (List.mem_of_getElem? at_m)
      exact absurd phase inside.not_returned

end ends

end linear

end Sharing
end SceneGpu
