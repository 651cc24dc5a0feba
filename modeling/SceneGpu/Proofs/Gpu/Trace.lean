import SceneGpu.Gpu.Machine
import SceneGpu.Proofs.Report.Effect
/-!
The calls that an action adds to those made before, told together with its outcome.
-/
namespace SceneGpu.Gpu.Action

variable {α β : Type}

/-- Whatever the machine, the outcome and the calls that the action adds are as told. -/
def Makes (x : Action α) (told : Except Failure α → List Call → Prop) : Prop :=
  ∀ m, ∃ made, (x m).2.calls = m.calls ++ made ∧ told (x m).1 made

namespace Makes

variable {told : Except Failure α → List Call → Prop} {next : Except Failure β → List Call → Prop}

theorem mono {x : Action α} {next : Except Failure α → List Call → Prop} (makes : Makes x told)
    (follows : ∀ r made, told r made → next r made) : Makes x next :=
  Effect.Adds.mono makes follows

theorem bind {x : Action α} {f : α → Action β} (first : Makes x told)
    (stops : ∀ e made, told (.error e) made → next (.error e) made)
    (rest : ∀ a made, told (.ok a) made → Makes (f a) fun r more => next r (made ++ more)) :
    Makes (x >>= f) next :=
  Effect.Adds.bind first stops rest

theorem say {rs : List Record} {f : Unit → Action β} (rest : Makes (f ()) next) :
    Makes (Action.say rs >>= f) next := by
  intro m
  exact rest { m with records := m.records ++ rs }

theorem get {f : Machine → Action β} (rest : ∀ m, Makes (f m) next) : Makes (Effect.get >>= f) next :=
  fun m => rest m m

theorem ofResult {r : Except Failure α} {f : α → Action β} (stops : ∀ e, next (.error e) [])
    (rest : ∀ a, Makes (f a) next) : Makes (Effect.ofResult r >>= f) next := by
  intro m
  cases r with
  | error e => exact ⟨[], (List.append_nil m.calls).symm, stops e⟩
  | ok a => exact rest a m

theorem pure {a : α} (done : told (.ok a) []) : Makes (Pure.pure a : Action α) told :=
  fun m => ⟨[], (List.append_nil m.calls).symm, done⟩

theorem called {next : Except Failure Unit → List Call → Prop} {c : Call} (done : next (.ok ()) [c]) :
    Makes (called c) next :=
  fun _ => ⟨[c], rfl, done⟩

theorem mapFailure {x : Action α} {next : Except Failure α → List Call → Prop}
    {f : Failure → Failure} (makes : Makes x told)
    (follows : ∀ r made, told r made → next (r.mapError f) made) :
    Makes (x.mapFailure f) next := by
  intro m
  obtain ⟨made, calls, said⟩ := makes m
  exact ⟨made, calls, follows _ _ said⟩

theorem orElseDo {x : Action α} {cleanUp : Action Unit}
    {cleaned : Except Failure Unit → List Call → Prop} {next : Except Failure α → List Call → Prop}
    (first : Makes x told) (cleans : Makes cleanUp cleaned)
    (kept : ∀ a made, told (.ok a) made → next (.ok a) made)
    (stops : ∀ e made r more, told (.error e) made → cleaned r more → next (.error e) (made ++ more)) :
    Makes (x.orElseDo cleanUp) next :=
  Effect.Adds.orElseDo first cleans kept stops

theorem outcome {x : Action α} {next : Except Failure (Except Failure α) → List Call → Prop}
    (makes : Makes x told) (holds : ∀ r made, told r made → next (.ok r) made) :
    Makes x.outcome next :=
  Effect.Adds.outcome makes holds

end Makes

inductive Attempted (f : Function) : Except Failure α → List Call → Prop
  | passed (a : α) : Attempted f (.ok a) []
  | refused (e : Failure) (code : ResultCode) : Attempted f (.error e) [.failed f code]

theorem attempt_makes (f : Function) : Makes (attempt f) (Attempted f) := by
  intro m
  unfold attempt
  cases m.nextFailure f with
  | none => exact ⟨[], (List.append_nil m.calls).symm, .passed ()⟩
  | some code => exact ⟨[.failed f code], rfl, .refused _ code⟩

namespace Makes

variable {f : Function} {x : Action α}

theorem attempted_mapFailure (makes : Makes x (Attempted f)) (g : Failure → Failure) :
    Makes (x.mapFailure g) (Attempted f) := by
  refine makes.mapFailure ?_
  rintro r made (a | ⟨e, code⟩)
  · exact .passed a
  · exact .refused _ code

theorem attempted_bind {g : α → Action β} {next : Except Failure β → List Call → Prop}
    (first : Makes x (Attempted f)) (stops : ∀ e code, next (.error e) [.failed f code])
    (rest : ∀ a, Makes (g a) next) : Makes (x >>= g) next := by
  refine first.bind ?_ ?_
  · rintro e made ⟨⟩
    exact stops e _
  · rintro a made ⟨⟩
    exact rest a

end Makes

inductive Created (f : Function) (call : Handle → Call) : Except Failure Handle → List Call → Prop
  | made (h : Handle) : Created f call (.ok h) [call h]
  | refused (e : Failure) (code : ResultCode) : Created f call (.error e) [.failed f code]

theorem create_makes (f : Function) (call : Handle → Call) : Makes (create f call) (Created f call) :=
  (attempt_makes f).attempted_bind .refused
    fun _ m => ⟨[call m.nextHandle], rfl, .made m.nextHandle⟩

theorem Makes.created_mapFailure {f : Function} {call : Handle → Call} {x : Action Handle}
    (makes : Makes x (Created f call)) (g : Failure → Failure) :
    Makes (x.mapFailure g) (Created f call) := by
  refine makes.mapFailure ?_
  rintro r made (h | ⟨e, code⟩)
  · exact .made h
  · exact .refused _ code

end SceneGpu.Gpu.Action
