import SceneGpu.Device.Workaround
/-!
What a pass over a table of workarounds does outside of the table. The test and the action of a rule
may read and change a state that is not the table's own, so that it shows in the state which of them
were run, how often and in which order.
-/
namespace SceneGpu.WorkaroundPass

structure Rule (σ : Type) where
  description : String
  applies : DeviceDescriptor → σ → Bool × σ
  action : DeviceDescriptor → σ → Logged Unit × σ

variable {σ : Type} {d : DeviceDescriptor}

namespace Rule

def standing (r : Rule σ) (s t : σ) : Workaround where
  description := r.description
  applies := fun d => (r.applies d s).1
  action := fun d => (r.action d t).1

def announcement (r : Rule σ) : Record := .warning .device ("Workaround activated: " ++ r.description)

def abort (r : Rule σ) (f : Failure) : Failure :=
  .ofCause (.workaroundAborted r.description (": ".intercalate f.chain))

def run (r : Rule σ) (d : DeviceDescriptor) (s : σ) : Logged Unit × σ :=
  ((r.standing s s).run d, (r.action d s).2)

/-- The test is pure: it gives this answer in every state and changes none. -/
def Answers (r : Rule σ) (d : DeviceDescriptor) (answer : Bool) : Prop :=
  ∀ s, r.applies d s = (answer, s)

theorem run_of_ok {r : Rule σ} {s t : σ} {more : List Record} (ran : r.action d s = (⟨more, .ok ()⟩, t)) :
    r.run d s = (⟨r.announcement :: more, .ok ()⟩, t) := by
  simp only [run, Workaround.run, standing, ran]
  rfl

theorem run_of_error {r : Rule σ} {s t : σ} {more : List Record} {f : Failure}
    (ran : r.action d s = (⟨more, .error f⟩, t)) :
    r.run d s = (⟨r.announcement :: more, .error (r.abort f)⟩, t) := by
  simp only [run, Workaround.run, standing, ran]
  rfl

end Rule

/-- The end of a pass, told with what was recorded and how many rules ran ahead of it. -/
def behind (records : List Record) (fired : Nat) (rest : Logged Nat × σ) : Logged Nat × σ :=
  (⟨records ++ rest.1.records, rest.1.result.map (· + fired)⟩, rest.2)

theorem behind_nothing (rest : Logged Nat × σ) : behind [] 0 rest = rest := by
  obtain ⟨⟨records, result⟩, t⟩ := rest
  cases result <;> rfl

theorem behind_behind (first second : List Record) (m n : Nat) (rest : Logged Nat × σ) :
    behind first m (behind second n rest) = behind (first ++ second) (n + m) rest := by
  obtain ⟨⟨records, result⟩, t⟩ := rest
  cases result <;> simp [behind, Except.map, Nat.add_assoc]

def goOn (ran : Logged Unit × σ) (rest : σ → Logged Nat × σ) : Logged Nat × σ :=
  match ran with
  | (⟨records, .ok ()⟩, t) => behind records 1 (rest t)
  | (⟨records, .error f⟩, t) => (⟨records, .error f⟩, t)

def pass (d : DeviceDescriptor) : List (Rule σ) → σ → Logged Nat × σ
  | [], s => (Logged.succeed 0, s)
  | r :: rest, s =>
    let (selected, s) := r.applies d s
    if selected then goOn (r.run d s) (pass d rest) else pass d rest s

def apply (table : List (Rule σ)) (disabled : Bool) (d : DeviceDescriptor) (s : σ) : Logged Nat × σ :=
  if disabled then (⟨[WorkaroundTable.disabledWarning], .ok 0⟩, s) else pass d table s

section Turns

variable {r : Rule σ} {rest : List (Rule σ)} {s t : σ} {more : List Record}

theorem pass_cons_of_passedOver (answers : r.Answers d false) : pass d (r :: rest) s = pass d rest s := by
  simp only [pass, answers s]
  rfl

theorem pass_cons_congr {others : List (Rule σ)} (same : pass d rest = pass d others) :
    pass d (r :: rest) s = pass d (r :: others) s := by
  simp only [pass, same]

theorem pass_cons_of_answers (answers : r.Answers d true) :
    pass d (r :: rest) s = goOn (r.run d s) (pass d rest) := by
  simp only [pass, answers s]
  rfl

theorem pass_cons_of_ok (answers : r.Answers d true) (ran : r.action d s = (⟨more, .ok ()⟩, t)) :
    pass d (r :: rest) s = behind (r.announcement :: more) 1 (pass d rest t) := by
  rw [pass_cons_of_answers answers, Rule.run_of_ok ran]
  rfl

theorem pass_cons_of_error {f : Failure} (answers : r.Answers d true)
    (ran : r.action d s = (⟨more, .error f⟩, t)) :
    pass d (r :: rest) s = (⟨r.announcement :: more, .error (r.abort f)⟩, t) := by
  rw [pass_cons_of_answers answers, Rule.run_of_error ran]
  rfl

end Turns

/-- The actions of the rules run once each, in order, and succeed: where they take the state, and what
is recorded. -/
inductive Ran (d : DeviceDescriptor) : List (Rule σ) → σ → List Record → σ → Prop where
  | nil (s : σ) : Ran d [] s [] s
  | cons {r : Rule σ} {rest : List (Rule σ)} {s t u : σ} {more records : List Record}
      (action : r.action d s = (⟨more, .ok ()⟩, t)) (later : Ran d rest t records u) :
      Ran d (r :: rest) s (r.announcement :: more ++ records) u

theorem pass_append_of_ran {front : List (Rule σ)} {s t : σ} {records : List Record}
    (answers : ∀ r ∈ front, r.Answers d true) (ran : Ran d front s records t) (back : List (Rule σ)) :
    pass d (front ++ back) s = behind records front.length (pass d back t) := by
  induction ran with
  | nil s => exact (behind_nothing _).symm
  | cons action later ih =>
    rw [List.forall_mem_cons] at answers
    rw [List.cons_append, pass_cons_of_ok answers.1 action, ih answers.2, behind_behind]
    rfl

theorem ran_or_stopped (rules : List (Rule σ)) (s : σ) :
    (∃ records t, Ran d rules s records t) ∨
      ∃ front r back records t more f u, rules = front ++ r :: back ∧ Ran d front s records t ∧
        r.action d t = (⟨more, .error f⟩, u) := by
  induction rules generalizing s with
  | nil => exact .inl ⟨[], s, .nil s⟩
  | cons r rest ih =>
    rcases action : r.action d s with ⟨⟨more, f | _⟩, t⟩
    · exact .inr ⟨[], r, rest, [], s, more, f, t, rfl, .nil s, action⟩
    · obtain ⟨records, u, ran⟩ | ⟨front, first, back, records, u, others, f, v, rfl, ran, fails⟩ := ih t
      · exact .inl ⟨_, u, .cons action ran⟩
      · exact .inr ⟨r :: front, first, back, _, u, others, f, v, rfl, .cons action ran, fails⟩

def matching (table : List (Rule σ)) (d : DeviceDescriptor) (s : σ) : List (Rule σ) :=
  table.filter fun r => (r.applies d s).1

def PureTests (table : List (Rule σ)) (d : DeviceDescriptor) : Prop :=
  ∀ r ∈ table, ∃ answer, r.Answers d answer

section Matching

variable {table : List (Rule σ)} {s : σ}

theorem answers_of_mem_matching (pure : PureTests table d) {r : Rule σ}
    (mem : r ∈ matching table d s) : r.Answers d true := by
  obtain ⟨listed, selected⟩ := List.mem_filter.mp mem
  obtain ⟨answer, answers⟩ := pure r listed
  rw [answers s] at selected
  rwa [show answer = true from selected] at answers

theorem pass_matching (pure : PureTests table d) (t : σ) :
    pass d (matching table d s) t = pass d table t := by
  induction table generalizing t with
  | nil => rfl
  | cons r rest ih =>
    obtain ⟨⟨answer, answers⟩, others⟩ := List.forall_mem_cons.mp pure
    cases answer with
    | false =>
      rw [matching, List.filter_cons_of_neg (by simp [answers s]), pass_cons_of_passedOver answers]
      exact ih others t
    | true =>
      rw [matching, List.filter_cons_of_pos (by simp [answers s])]
      exact pass_cons_congr (funext (ih others))

end Matching

def inTurn (d : DeviceDescriptor) : List (Rule σ) → σ → WorkaroundTable
  | [], _ => []
  | r :: rest, s =>
    let (selected, t) := r.applies d s
    r.standing s t :: inTurn d rest (if selected then (r.run d t).2 else t)

theorem runAll_cons (w : Workaround) {rest : List Workaround} {t : σ} {later : σ → Logged Nat × σ}
    (same : WorkaroundTable.runAll d rest = (later t).1) :
    WorkaroundTable.runAll d (w :: rest) = (goOn (w.run d, t) later).1 := by
  change (Logged.andThen (w.run d) fun _ => Logged.andThen (WorkaroundTable.runAll d rest) fun fired =>
    Logged.succeed (fired + 1)) = _
  rw [same]
  rcases w.run d with ⟨records, f | _⟩
  · rfl
  · rcases tail : later t with ⟨⟨others, f | fired⟩, u⟩ <;>
      simp [Logged.andThen, Logged.succeed, goOn, behind, Except.map, tail]

theorem apply_inTurn (table : List (Rule σ)) (disabled : Bool) (s : σ) :
    (inTurn d table s).apply disabled d = (apply table disabled d s).1 := by
  cases disabled with
  | true => rfl
  | false =>
    -- Each rule is tested in the state that the turns before it leave, and stands so in `inTurn`.
    change WorkaroundTable.runAll d ((inTurn d table s).filter (·.applies d)) = (pass d table s).1
    induction table generalizing s with
    | nil => rfl
    | cons r rest ih =>
      rcases test : r.applies d s with ⟨selected, t⟩
      have stands : (r.standing s t).applies d = selected := congrArg Prod.fst test
      simp only [inTurn, pass, test]
      cases selected with
      | false =>
        rw [List.filter_cons_of_neg (by simp [stands])]
        exact ih t
      | true =>
        rw [List.filter_cons_of_pos (by simp [stands])]
        exact runAll_cons (r.standing s t) (ih (r.run d t).2)

/-- The rules that match run in order, each once, up to the first whose action fails. -/
structure Traced (table : List (Rule σ)) (d : DeviceDescriptor) (s : σ) : Prop where
  succeeds : ∀ records t, Ran d (matching table d s) s records t →
    apply table false d s = (⟨records, .ok (matching table d s).length⟩, t)
  stops : ∀ front r back records t more f u, matching table d s = front ++ r :: back →
    Ran d front s records t → r.action d t = (⟨more, .error f⟩, u) →
    apply table false d s = (⟨records ++ r.announcement :: more, .error (r.abort f)⟩, u)
  either : (∃ records t, Ran d (matching table d s) s records t) ∨
    ∃ front r back records t more f u, matching table d s = front ++ r :: back ∧
      Ran d front s records t ∧ r.action d t = (⟨more, .error f⟩, u)

theorem traced_of_pureTests {table : List (Rule σ)} (pure : PureTests table d) (s : σ) :
    Traced table d s where
  succeeds := by
    intro records t ran
    have all := pass_append_of_ran (fun r => answers_of_mem_matching pure) ran []
    rw [List.append_nil, pass_matching pure] at all
    rw [apply, if_neg Bool.false_ne_true, all]
    simp [behind, pass, Logged.succeed, Except.map]
  stops := by
    intro front r back records t more f u split ran fails
    have answers : ∀ q ∈ front ++ r :: back, q.Answers d true := fun q mem =>
      answers_of_mem_matching pure (split.symm ▸ mem)
    have ahead : ∀ q ∈ front, q.Answers d true := fun q mem => answers q (List.mem_append_left _ mem)
    have here : r.Answers d true := answers r (List.mem_append_right _ List.mem_cons_self)
    have all := pass_append_of_ran ahead ran (r :: back)
    rw [← split, pass_matching pure, pass_cons_of_error here fails] at all
    rw [apply, if_neg Bool.false_ne_true, all]
    rfl
  either := ran_or_stopped (matching table d s) s

/-- Applying a table: with pure tests the pass is as traced; disabled, it leaves one warning and the
state as it was, whatever the rules; and the records and the result are those of
`WorkaroundTable.apply` on the rules as each stands when its turn comes. -/
theorem apply_traced (table : List (Rule σ)) (d : DeviceDescriptor) (s : σ) :
    (PureTests table d → Traced table d s) ∧
      apply table true d s = (⟨[WorkaroundTable.disabledWarning], .ok 0⟩, s) ∧
      ∀ disabled, (inTurn d table s).apply disabled d = (apply table disabled d s).1 :=
  ⟨fun pure => traced_of_pureTests pure s, rfl, fun disabled => apply_inTurn table disabled s⟩

def noting (name vendor : String) (result : Except Failure Unit) : Rule (List String) where
  description := name
  applies := fun d s => (d.vendor = vendor, s)
  action := fun _ s => (⟨[.warning .other (name ++ " ran")], result⟩, s ++ [name])

def card : DeviceDescriptor := ⟨"Nvidia", "Test card", "396.24.0", "1.3.0", .discrete⟩

/-- A success, a rule that is passed over, a failure, and a rule that is not reached. -/
def notes : List (Rule (List String)) :=
  [noting "first" "Nvidia" (.ok ()), noting "second" "AMD" (.ok ()),
    noting "third" "Nvidia" (.error ⟨["while probing"], .plain "no such queue"⟩),
    noting "fourth" "Nvidia" (.ok ())]

theorem apply_traced_notes :
    PureTests notes card ∧ apply notes false card [] =
      (⟨[.warning .device "Workaround activated: first", .warning .other "first ran",
          .warning .device "Workaround activated: third", .warning .other "third ran"],
        .error (.ofCause (.workaroundAborted "third" "while probing: no such queue"))⟩,
        ["first", "third"]) := by
  have pure : PureTests notes card := by
    simp only [PureTests, notes, List.forall_mem_cons]
    exact ⟨⟨_, fun _ => rfl⟩, ⟨_, fun _ => rfl⟩, ⟨_, fun _ => rfl⟩, ⟨_, fun _ => rfl⟩, by simp⟩
  have traced := (apply_traced notes card []).1 pure
  refine ⟨pure, ?_⟩
  exact traced.stops [noting "first" "Nvidia" (.ok ())] _ [noting "fourth" "Nvidia" (.ok ())] _ _ _ _ _ rfl
    (.cons rfl (.nil _)) rfl

end SceneGpu.WorkaroundPass
