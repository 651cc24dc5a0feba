import SceneGpu.Files.Tree
import SceneGpu.Proofs.Path.Agreement
/-!
Agreeing paths in a tree. A path that once named a file has no idle segment at its end, so it leads
to whatever an agreeing path leads to, at any later time.
-/
namespace SceneGpu.Files.Tree

open SceneGpu.Path (busy isIdle isUp split)

variable {t u : Tree}

theorem follow_cons_ok {place : Place} {segment : List UInt8} {rest : List (List UInt8)}
    {reached : Place} (ok : t.follow place (segment :: rest) = .ok reached) :
    ∃ stamp, t.node place = some (.directory stamp) := by
  simp only [follow] at ok
  split at ok
  · cases ok
  · cases ok
  · rename_i stamp eq
    exact ⟨stamp, eq⟩

theorem follow_cons {place : Place} {stamp : Stamp} (inside : t.node place = some (.directory stamp))
    (segment : List UInt8) (rest : List (List UInt8)) :
    t.follow place (segment :: rest) =
      if isIdle segment then t.follow place rest
      else if isUp segment then t.follow place.dropLast rest
      else t.follow (place ++ [segment]) rest := by
  simp [follow, inside]

theorem follow_busy {place reached : Place} {segments : List (List UInt8)}
    (ok : t.follow place segments = .ok reached) : t.follow place (busy segments) = .ok reached := by
  induction segments generalizing place with
  | nil => exact ok
  | cons segment rest ih =>
    obtain ⟨stamp, inside⟩ := follow_cons_ok ok
    rw [follow_cons inside] at ok
    by_cases idle : isIdle segment
    · rw [Path.busy_cons_idle idle]
      exact ih (by simpa [idle] using ok)
    · have keep : busy (segment :: rest) = segment :: busy rest := by simp [busy, idle]
      rw [keep, follow_cons inside]
      simp only [idle, Bool.false_eq_true, ↓reduceIte] at ok ⊢
      split
      · rename_i up
        exact ih (by simpa [up] using ok)
      · rename_i down
        exact ih (by simpa [down] using ok)

theorem follow_of_busy {place reached : Place} {segments : List (List UInt8)}
    (moving : ∀ last, segments.getLast? = some last → isIdle last = false)
    (ok : t.follow place (busy segments) = .ok reached) : t.follow place segments = .ok reached := by
  induction segments generalizing place with
  | nil => exact ok
  | cons segment rest ih =>
    have later : ∀ last, rest.getLast? = some last → isIdle last = false := by
      intro last eq
      exact moving last (by simp [List.getLast?_cons, eq])
    by_cases idle : isIdle segment
    · rw [Path.busy_cons_idle idle] at ok
      -- the segment is not the last one, so a busy one follows and asks for a directory
      obtain ⟨next, more, eq⟩ : ∃ next more, busy rest = next :: more := by
        cases rest using List.reverseRecOn with
        | nil => simp [moving segment rfl] at idle
        | append_singleton front last =>
          have moves := later last (by simp)
          rw [Path.busy_append]
          exact List.exists_cons_of_ne_nil (by simp [busy, moves])
      obtain ⟨stamp, inside⟩ := follow_cons_ok (eq ▸ ok)
      rw [follow_cons inside]
      simpa [idle] using ih later ok
    · have keep : busy (segment :: rest) = segment :: busy rest := by simp [busy, idle]
      rw [keep] at ok
      obtain ⟨stamp, inside⟩ := follow_cons_ok ok
      rw [follow_cons inside] at ok ⊢
      simp only [idle, Bool.false_eq_true, ↓reduceIte] at ok ⊢
      split
      · rename_i up
        exact ih later (by simpa [up] using ok)
      · rename_i down
        exact ih later (by simpa [down] using ok)

/-- An idle segment at the end asks for a directory. -/
theorem follow_idle_end {place reached : Place} {segments : List (List UInt8)} {last : List UInt8}
    (ok : t.follow place segments = .ok reached) (isLast : segments.getLast? = some last)
    (idle : isIdle last) : ∃ stamp, t.node reached = some (.directory stamp) := by
  induction segments generalizing place with
  | nil => simp at isLast
  | cons segment rest ih =>
    obtain ⟨stamp, inside⟩ := follow_cons_ok ok
    rw [follow_cons inside] at ok
    cases rest with
    | nil =>
      obtain rfl : segment = last := by simpa using isLast
      obtain rfl : place = reached := by simpa [idle, follow] using ok
      exact ⟨stamp, inside⟩
    | cons next more =>
      have isLast : (next :: more).getLast? = some last := by simpa using isLast
      split at ok
      · exact ih ok isLast
      · split at ok
        · exact ih ok isLast
        · exact ih ok isLast

theorem find_ok {p : Path} {place : Place} {n : Node} (found : t.find p = .ok (place, n)) :
    t.reach p = .ok place ∧ t.node place = some n := by
  unfold find at found
  split at found
  · cases found
  · rename_i reached eq
    split at found
    · cases found
    · rename_i m there
      cases found
      exact ⟨eq, there⟩

theorem reach_ok {p : Path} {place : Place} (reached : t.reach p = .ok place) :
    0 ∉ p.bytes ∧ p.bytes ≠ [] ∧
      t.follow (if p.isAbsolute then [] else t.here) (split p.bytes) = .ok place := by
  unfold reach at reached
  split at reached
  · cases reached
  · split at reached
    · cases reached
    · rename_i plain filled
      exact ⟨by simpa using plain, filled, reached⟩

theorem read_ok {p : Path} {content : List UInt8} (read : t.read p = .ok content) :
    ∃ place stamp executable, t.find p = .ok (place, .file content stamp executable) := by
  unfold Tree.read at read
  split at read
  · cases read
  · cases read
  · rename_i place bytes stamp executable found
    cases read
    exact ⟨place, stamp, executable, found⟩

/-- A path read at one time leads, at another, wherever an agreeing path leads then. -/
theorem find_of_agrees {p q : Path} {content : List UInt8} {r : Place × Node}
    (agree : p.agrees q = true) (read : t.read p = .ok content) (found : u.find q = .ok r) :
    u.find p = .ok r := by
  obtain ⟨place, stamp, executable, there⟩ := read_ok read
  obtain ⟨reached, isFile⟩ := find_ok there
  obtain ⟨plain, filled, followed⟩ := reach_ok reached
  have moving : ∀ last, (split p.bytes).getLast? = some last → isIdle last = false := by
    intro last isLast
    rw [Bool.eq_false_iff]
    intro idle
    obtain ⟨_, isDirectory⟩ := follow_idle_end followed isLast idle
    rw [isFile] at isDirectory
    cases isDirectory
  obtain ⟨heads, steps⟩ := Path.agrees_iff.mp agree
  have start : p.isAbsolute = q.isAbsolute := by
    rw [Bool.eq_iff_iff, Path.isAbsolute_iff_head, Path.isAbsolute_iff_head, heads]
  obtain ⟨reached', isNode⟩ := find_ok found
  obtain ⟨_, _, followed'⟩ := reach_ok reached'
  have way := follow_busy followed'
  rw [← Path.steps_eq_busy, ← steps, Path.steps_eq_busy, ← start] at way
  have again := follow_of_busy moving way
  simp [find, reach, plain, filled, again, isNode]

/-- Stamps tell two times apart: a path with one stamp reads alike, be it a content or a refusal. -/
def TellsApart (t u : Tree) : Prop :=
  ∀ path stamp, t.modified? path = some stamp → u.modified? path = some stamp →
    t.read path = u.read path

theorem tellsApart_put {place : Place} {content content' : List UInt8} {stamp stamp' : Stamp}
    {executable executable' : Bool} (old : t.node place = some (.file content stamp executable))
    (later : stamp ≠ stamp') :
    t.TellsApart (t.put place (some (.file content' stamp' executable'))) := by
  have way : ∀ segments start, (t.put place (some (.file content' stamp' executable'))).follow
      start segments = t.follow start segments := by
    intro segments
    induction segments with
    | nil => intro start; rfl
    | cons segment rest ih =>
      intro start
      by_cases here : start = place
      · subst here
        simp [follow, put, old]
      · simp only [follow, put, here, ↓reduceIte]
        simp only [put] at ih
        simp only [ih]
  intro path stamp₁ before after
  have reaches : (t.put place (some (.file content' stamp' executable'))).reach path =
      t.reach path := by
    simp only [reach, way]
    rfl
  simp only [modified?, find, reaches, Tree.read] at before after ⊢
  cases reached : t.reach path with
  | error r => simp
  | ok there =>
    by_cases here : there = place
    · subst here
      simp only [reached, put, old, ↓reduceIte, Node.stamp, Option.some.injEq] at before after
      exact absurd (before.trans after.symm) later
    · simp [put, here]

theorem read_of_agrees {p q : Path} {content : List UInt8}
    (tells : t.TellsApart u) (agree : p.agrees q = true) (stamps : t.modified? p = u.modified? q)
    (read : t.read p = .ok content) : u.read q = .ok content := by
  obtain ⟨place, stamp, executable, there⟩ := read_ok read
  have stamped : t.modified? p = some stamp := by simp [modified?, there, Node.stamp]
  cases found : u.find q with
  | error r =>
    rw [stamped] at stamps
    simp [modified?, found] at stamps
  | ok r =>
    have alike : u.find p = u.find q := by rw [find_of_agrees agree read found, found]
    have stamped' : u.modified? p = some stamp := by
      rw [← stamped, stamps]
      simp only [modified?, alike]
    have reads : u.read p = u.read q := by simp only [Tree.read, alike]
    rw [← reads, ← tells p stamp stamped stamped', read]

end SceneGpu.Files.Tree
