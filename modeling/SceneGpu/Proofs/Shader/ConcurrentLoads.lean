import SceneGpu.Proofs.Shader.CacheCoherence
import SceneGpu.Proofs.Shader.LoadSteps
/-!
Loads that run side by side on one library, while files are written over. A load takes its stamp
before it reads, so an entry's stamp is never later than that of the file it was built from.
-/
namespace SceneGpu.Library

open Files

structure ReadFrom (s : Services) (u : Tree) (e : CacheEntry) : Prop where
  held : module? s u e.artifact = some e.loaded.module
  dated : ∃ taken stamp, e.stamp = some taken ∧ u.modified? e.artifact.path = some stamp ∧
    taken ≤ stamp

def Vouched (s : Services) (known : Tree → Prop) (e : CacheEntry) : Prop :=
  ∃ u, known u ∧ ReadFrom s u e

/-- What holds of a load at any time: its stamp was that of its artifact, and what it built stood in
a tree that is known. -/
def Loading.Sound (s : Services) (known : Tree → Prop) (t : Tree) : Loading → Prop
  | .stated _ active => ∃ u : Tree, u.Overwritten t ∧ u.modified? active.1.path = active.2
  | .missed _ active => ∃ u : Tree, u.Overwritten t ∧ u.modified? active.1.path = active.2
  | .built e _ _ => Vouched s known e
  | .returned _ _ => True

structure Shared.Sound (s : Services) (known : Tree → Prop) (w : Shared) : Prop where
  cache : ∀ e ∈ w.library.cache, Vouched s known e
  loads : ∀ x ∈ w.loads, x.Sound s known w.tree

section Sound

variable {s : Services} {known : Tree → Prop} {t : Tree}

theorem module?_read {a : Artifact} {m : ShaderModule} (built : module? s t a = some m) :
    ∃ content, t.read a.path = .ok content := by
  obtain ⟨words, holds, _⟩ := Option.bind_eq_some_iff.mp built
  exact words?_read holds

theorem build_module? {requested : Path} {a : Artifact} {m : ShaderModule}
    (built : (build s t requested a).outcome.result = .ok m) : module? s t a = some m := by
  rw [← build_value? s t requested]
  exact Logged.value?_eq_some.mpr built

theorem Loading.Sound.overwritten {u : Tree} {x : Loading} (sound : x.Sound s known t)
    (anew : t.Overwritten u) : x.Sound s known u := by
  cases x with
  | stated requested active =>
    obtain ⟨v, earlier, stamped⟩ := sound
    exact ⟨v, earlier.trans anew, stamped⟩
  | missed requested active =>
    obtain ⟨v, earlier, stamped⟩ := sound
    exact ⟨v, earlier.trans anew, stamped⟩
  | built e calls records => exact sound
  | returned calls outcome => trivial

theorem Vouched.mono {known' : Tree → Prop} {e : CacheEntry} (vouched : Vouched s known e)
    (more : ∀ u, known u → known' u) : Vouched s known' e := by
  obtain ⟨u, was, held⟩ := vouched
  exact ⟨u, more u was, held⟩

theorem Shared.Sound.mono {known' : Tree → Prop} {w : Shared} (sound : w.Sound s known)
    (more : ∀ u, known u → known' u) : w.Sound s known' := by
  refine ⟨fun e mem => (sound.cache e mem).mono more, ?_⟩
  intro x mem
  have holds := sound.loads x mem
  cases x with
  | stated requested active => exact holds
  | missed requested active => exact holds
  | built e calls records => exact Vouched.mono holds more
  | returned calls outcome => trivial

theorem beginLoad_sound (l : Library) (path : Path) (owner : Option Path) :
    (l.beginLoad t path owner).Sound s known t := by
  unfold beginLoad
  split
  · trivial
  · exact ⟨t, .refl t, activeArtifact_stamp t _⟩

/-- The stamp was taken before the file is read, so it is no later than the file's. -/
theorem advance_sound {l : Library} {x : Loading} (now : known t)
    (cache : ∀ e ∈ l.cache, Vouched s known e) (sound : x.Sound s known t) :
    (∀ e ∈ (advance s l t x).1.cache, Vouched s known e) ∧
      (advance s l t x).2.Sound s known t := by
  cases x with
  | stated requested active =>
    refine ⟨cache, ?_⟩
    rw [advance]
    cases current : l.current? requested active.1 active.2 with
    | some loaded =>
      rw [lookUp_current current]
      trivial
    | none =>
      rw [lookUp_outdated current]
      exact sound
  | missed requested active =>
    rw [advance]
    cases result : (build s t requested active.1).outcome.result with
    | error e =>
      rw [readAndBuild_error result]
      exact ⟨cache, trivial⟩
    | ok m =>
      obtain ⟨u, earlier, stamped⟩ := sound
      have held := build_module? result
      have read := (earlier.readable_iff _).mpr (module?_read held)
      obtain ⟨taken, stamp, before, after, order⟩ := earlier.modified?_le read
      rw [readAndBuild_ok result]
      exact ⟨cache, t, now, held, taken, stamp, stamped.symm.trans before, after, order⟩
  | built e calls records =>
    refine ⟨?_, trivial⟩
    intro x mem
    rcases mem_store mem with mem | ⟨artifact, stamp, loaded⟩
    · exact cache x mem
    · obtain ⟨u, was, origin⟩ := sound
      refine ⟨u, was, ?_, ?_⟩
      · rw [artifact, loaded]
        exact origin.held
      · rw [artifact, stamp]
        exact origin.dated
  | returned calls outcome => exact ⟨cache, trivial⟩

theorem Shared.Sound.after {w : Shared} (sound : w.Sound s known) (now : known w.tree) (e : Event) :
    (w.after s e).Sound s known := by
  cases e with
  | write change =>
    exact ⟨sound.cache, fun x mem => (sound.loads x mem).overwritten (change.overwrites w.tree)⟩
  | invalidate path =>
    exact ⟨fun e mem => sound.cache e (List.mem_filter.mp mem).1, sound.loads⟩
  | start path owner =>
    refine ⟨sound.cache, ?_⟩
    intro x mem
    rcases List.mem_append.mp mem with mem | mem
    · exact sound.loads x mem
    · obtain rfl := List.mem_singleton.mp mem
      exact beginLoad_sound w.library path owner
  | step n =>
    simp only [Shared.after]
    split
    · exact sound
    · rename_i x at_n
      obtain ⟨cache, moved⟩ :=
        advance_sound now sound.cache (sound.loads x (List.mem_of_getElem? at_n))
      refine ⟨cache, ?_⟩
      intro y mem
      rcases List.mem_or_eq_of_mem_set mem with mem | rfl
      · exact sound.loads y mem
      · exact moved

theorem Shared.Sound.run {w : Shared} {events : List Event} (sound : w.Sound s known)
    (seen : ∀ u ∈ Shared.trees s w events, known u) : (w.run s events).Sound s known := by
  induction events generalizing w with
  | nil => exact sound
  | cons e rest ih =>
    have now := seen w.tree List.mem_cons_self
    exact ih (sound.after now e) fun u mem => seen u (List.mem_cons_of_mem _ mem)

theorem Shared.sound_run (s : Services) (root : Path) (t : Tree) (events : List Event) :
    ((Shared.idle root t).run s events).Sound s fun u =>
      u.Overwritten ((Shared.idle root t).run s events).tree := by
  have idle : (Shared.idle root t).Sound s fun u =>
      u.Overwritten ((Shared.idle root t).run s events).tree :=
    ⟨fun e mem => (List.not_mem_nil mem).elim, fun x mem => (List.not_mem_nil mem).elim⟩
  exact idle.run Shared.trees_overwritten_last

end Sound

def answer (s : Services) (start : Tree) (requested : Path) (t : Tree) : Except Failure Loaded :=
  (build s t requested (activeArtifact start requested).1).outcome.result.map fun m => ⟨m, 0⟩

def Loading.Faithful (s : Services) (start : Tree) (requested : Path) (seen : List Tree) :
    Loading → Prop
  | .stated wanted active => wanted = requested ∧ active = activeArtifact start requested
  | .missed wanted active => wanted = requested ∧ active = activeArtifact start requested
  | .built e _ _ => ∃ u ∈ seen, SameOutcome (.ok e.loaded) (answer s start requested u)
  | .returned _ outcome => ∃ u ∈ seen, SameOutcome outcome.result (answer s start requested u)

section Faithful

variable {s : Services} {start t : Tree} {requested : Path} {seen : List Tree}

theorem answer_module? {loaded : Loaded} {m : ShaderModule}
    (held : module? s t (activeArtifact start requested).1 = some m) (same : loaded.module.Same m) :
    SameOutcome (.ok loaded) (answer s start requested t) := by
  rw [← build_value? s t requested] at held
  rw [answer, Logged.value?_eq_some.mp held]
  exact .loaded same

theorem modified?_of_agrees {u : Tree} {p q : Path} (agree : p.agrees q = true)
    (read : ∃ content, t.read p = .ok content) {r : Place × Node} (found : u.find q = .ok r) :
    u.modified? p = u.modified? q := by
  obtain ⟨content, read⟩ := read
  simp only [Tree.modified?, Tree.find_of_agrees agree read found, found]

theorem find_of_modified? {p : Path} {stamp : Stamp} (stamped : t.modified? p = some stamp) :
    ∃ r, t.find p = .ok r := by
  unfold Tree.modified? at stamped
  split at stamped
  · rename_i place node found
    exact ⟨(place, node), found⟩
  · cases stamped

section hit

variable {u : Tree} {e : CacheEntry} (origin : ReadFrom s u e) (respects : s.compile.Respects)
  (agree : e.artifact.agrees (activeArtifact start requested).1 = true)
  (stamped : e.stamp = (activeArtifact start requested).2)

include origin respects agree stamped

theorem ReadFrom.answers_since (since : start.Overwritten u) :
    SameOutcome (.ok e.loaded) (answer s start requested u) := by
  obtain ⟨taken, _, isTaken, _⟩ := origin.dated
  obtain ⟨paths, _⟩ := e.artifact.agrees_cases agree
  have begun := activeArtifact_stamp start requested
  rw [← stamped, isTaken] at begun
  obtain ⟨r, found⟩ := find_of_modified? begun
  obtain ⟨r', still⟩ := since.find_ok found
  have stamps := modified?_of_agrees paths (module?_read origin.held) still
  obtain ⟨m, holds, same⟩ :=
    module?_of_agrees respects (Tree.Overwritten.refl u).tellsApart agree stamps origin.held
  exact answer_module? holds same

/-- The stamp of the file cannot have grown and come back, so it was the same all the time. -/
theorem ReadFrom.answers_before (earlier : u.Overwritten start) :
    SameOutcome (.ok e.loaded) (answer s start requested start) := by
  obtain ⟨taken, stamp, isTaken, isStamp, lower⟩ := origin.dated
  obtain ⟨paths, _⟩ := e.artifact.agrees_cases agree
  have begun := activeArtifact_stamp start requested
  rw [← stamped, isTaken] at begun
  obtain ⟨r, found⟩ := find_of_modified? begun
  have read := module?_read origin.held
  have same := (modified?_of_agrees paths read found).trans begun
  obtain ⟨before, after, was, is, upper⟩ := earlier.modified?_le read
  obtain rfl := Option.some.inj (was.symm.trans isStamp)
  obtain rfl := Option.some.inj (is.symm.trans same)
  obtain rfl := Int.le_antisymm upper lower
  obtain ⟨m, holds, alike⟩ :=
    module?_of_agrees respects earlier.tellsApart agree (was.trans begun.symm) origin.held
  exact answer_module? holds alike

end hit

theorem Vouched.answers {e : CacheEntry} (respects : s.compile.Respects) (first : start ∈ seen)
    (later : ∀ u ∈ seen, start.Overwritten u)
    (vouched : Vouched s (fun u => u.Overwritten start ∨ u ∈ seen) e)
    (agree : e.artifact.agrees (activeArtifact start requested).1 = true)
    (stamped : e.stamp = (activeArtifact start requested).2) :
    ∃ u ∈ seen, SameOutcome (.ok e.loaded) (answer s start requested u) := by
  obtain ⟨u, earlier | since, origin⟩ := vouched
  · exact ⟨start, first, origin.answers_before respects agree stamped earlier⟩
  · exact ⟨u, since, origin.answers_since respects agree stamped (later u since)⟩

theorem advance_faithful {l : Library} {x : Loading} (respects : s.compile.Respects)
    (first : start ∈ seen) (later : ∀ u ∈ seen, start.Overwritten u) (now : t ∈ seen)
    (cache : ∀ e ∈ l.cache, Vouched s (fun u => u.Overwritten start ∨ u ∈ seen) e)
    (faithful : x.Faithful s start requested seen) :
    (advance s l t x).2.Faithful s start requested seen := by
  cases x with
  | stated wanted active =>
    obtain ⟨rfl, rfl⟩ := faithful
    rw [advance]
    cases current : l.current? wanted (activeArtifact start wanted).1
        (activeArtifact start wanted).2 with
    | some loaded =>
      rw [lookUp_current current]
      obtain ⟨e, mem, -, agree, stamped, rfl⟩ := current?_mem current
      exact (cache e mem).answers respects first later agree stamped
    | none =>
      rw [lookUp_outdated current]
      exact ⟨rfl, rfl⟩
  | missed wanted active =>
    obtain ⟨rfl, rfl⟩ := faithful
    rw [advance]
    cases result : (build s t wanted (activeArtifact start wanted).1).outcome.result with
    | error e =>
      rw [readAndBuild_error result]
      refine ⟨t, now, ?_⟩
      rw [answer, result]
      exact .failed e
    | ok m =>
      rw [readAndBuild_ok result]
      refine ⟨t, now, ?_⟩
      rw [answer, result]
      exact .loaded m.same_refl
  | built e calls records => exact faithful
  | returned calls outcome => exact faithful

theorem Shared.run_faithful (respects : s.compile.Respects) (first : start ∈ seen)
    (later : ∀ u ∈ seen, start.Overwritten u) {w : Shared} {events : List Event} {n : Nat}
    {x : Loading} (within : ∀ u ∈ Shared.trees s w events, u ∈ seen)
    (sound : w.Sound s fun u => u.Overwritten start ∨ u ∈ seen) (at_n : w.loads[n]? = some x)
    (faithful : x.Faithful s start requested seen) :
    ∃ y, (w.run s events).loads[n]? = some y ∧ y.Faithful s start requested seen := by
  induction events generalizing w x with
  | nil => exact ⟨x, at_n, faithful⟩
  | cons e rest ih =>
    have now := within w.tree List.mem_cons_self
    have next : (if e.moves n then (advance s w.library w.tree x).2 else x).Faithful s start
        requested seen := by
      split
      · exact advance_faithful respects first later now sound.cache faithful
      · exact faithful
    exact ih (fun u mem => within u (List.mem_cons_of_mem _ mem)) (sound.after (.inr now) e)
      (Shared.after_load at_n e) next

theorem Shared.run_faithful_start (respects : s.compile.Respects) {w : Shared} {n : Nat}
    {x : Loading} (events : List Event) (sound : w.Sound s fun u => u.Overwritten w.tree)
    (at_n : w.loads[n]? = some x)
    (faithful : x.Faithful s w.tree requested (Shared.trees s w events)) :
    ∃ y, (w.run s events).loads[n]? = some y ∧
      y.Faithful s w.tree requested (Shared.trees s w events) :=
  Shared.run_faithful respects (Shared.mem_trees_first w events)
    (fun _ mem => Shared.trees_overwritten_first mem) (fun _ mem => mem)
    (sound.mono fun _ => .inl) at_n faithful

theorem answer_ok {loaded : Loaded}
    (same : SameOutcome (.ok loaded) (answer s start requested t)) :
    ∃ m, (build s t requested (activeArtifact start requested).1).outcome.result = .ok m ∧
      loaded.module.Same m := by
  unfold answer at same
  cases result : (build s t requested (activeArtifact start requested).1).outcome.result with
  | error f =>
    rw [result] at same
    cases same
  | ok m =>
    rw [result] at same
    cases same with
    | loaded same => exact ⟨m, rfl, same⟩

theorem load_answer {root path : Path} {owner : Option Path}
    (resolved : (withRoot root).resolve? t path owner = some requested) :
    ((withRoot root).load s t path owner).outcome.result = answer s t requested t := by
  unfold answer
  cases result : (build s t requested (activeArtifact t requested).1).outcome.result with
  | error f => exact (load_unbuilt resolved rfl result).2
  | ok m => exact (load_built resolved rfl result).2

theorem Shared.run_still (respects : s.compile.Respects) {w : Shared} {n : Nat}
    {events : List Event} (sound : w.Sound s fun u => u.Overwritten w.tree)
    (at_n : w.loads[n]? = some (.stated requested (activeArtifact w.tree requested)))
    (still : ∀ e ∈ events, e.isWrite = false) (enough : 3 ≤ events.countP (·.moves n)) :
    ∃ calls outcome, (w.run s events).loads[n]? = some (.returned calls outcome) ∧
      SameOutcome outcome.result (answer s w.tree requested w.tree) := by
  obtain ⟨y, at_end, faithful⟩ := Shared.run_faithful_start respects events sound at_n ⟨rfl, rfl⟩
  obtain ⟨z, at_end', left⟩ := Shared.run_left s events at_n
  obtain rfl := Option.some.inj (at_end.symm.trans at_end')
  have none_left : y.left = 0 := by
    have left : y.left ≤ 3 - events.countP (·.moves n) := left
    omega
  obtain ⟨calls, outcome, rfl⟩ := Loading.returned_of_left none_left
  obtain ⟨u, mem, same⟩ := faithful
  obtain rfl := Shared.mem_trees_still still mem
  exact ⟨calls, outcome, at_end, same⟩

end Faithful

/-- However loads, writes and invalidations fall between each other, a load that succeeds gives what
its artifact held at some time between the load's beginning and its end. With no write since the
beginning it comes to an end, and the outcome is that of a load of the final files with an empty
cache. -/
theorem load_amid_writes {s : Services} (respects : s.compile.Respects) (root : Path) (t : Tree)
    (before after : List Event) (path : Path) (owner : Option Path) :
    let begun := (Shared.idle root t).run s before
    let started := begun.after s (.start path owner)
    let ended := started.run s after
    let id := begun.loads.length
    (∀ calls records loaded, ended.loads[id]? = some (.returned calls ⟨records, .ok loaded⟩) →
      ∃ requested, (withRoot root).resolve? begun.tree path owner = some requested ∧
        ∃ u ∈ started.trees s after, ∃ m,
          (build s u requested (activeArtifact begun.tree requested).1).outcome.result = .ok m ∧
            loaded.module.Same m) ∧
    ((∀ e ∈ after, e.isWrite = false) → 3 ≤ after.countP (·.moves id) →
      ∃ calls outcome, ended.loads[id]? = some (.returned calls outcome) ∧
        SameOutcome outcome.result
          ((withRoot root).load s ended.tree path owner).outcome.result) := by
  intro begun started ended id
  have sound : started.Sound s fun u => u.Overwritten started.tree :=
    (Shared.sound_run s root t before).after (.refl _) _
  have at_id : started.loads[id]? = some (begun.library.beginLoad begun.tree path owner) :=
    Shared.after_start s begun path owner
  have resolves : begun.library.resolve? = (withRoot root).resolve? :=
    Shared.run_resolve? s root t before
  have last : (∀ e ∈ after, e.isWrite = false) → ended.tree = begun.tree := Shared.run_tree_still
  cases resolved : (withRoot root).resolve? begun.tree path owner with
  | none =>
    rw [beginLoad_unresolved (by rw [resolves, resolved])] at at_id
    have at_end : ended.loads[id]? = _ := Shared.run_returned at_id
    refine ⟨?_, ?_⟩
    · intro calls records loaded succeeds
      rw [at_end] at succeeds
      cases succeeds
    · intro still enough
      rw [last still, load_unresolved resolved]
      exact ⟨_, _, at_end, .failed _⟩
  | some requested =>
    rw [beginLoad_resolved (by rw [resolves, resolved])] at at_id
    refine ⟨?_, ?_⟩
    · intro calls records loaded succeeds
      obtain ⟨y, at_end, faithful⟩ :=
        Shared.run_faithful_start respects after sound at_id ⟨rfl, rfl⟩
      obtain rfl := Option.some.inj (at_end.symm.trans succeeds)
      obtain ⟨u, mem, same⟩ := faithful
      exact ⟨requested, rfl, u, mem, answer_ok same⟩
    · intro still enough
      rw [last still, load_answer resolved]
      exact Shared.run_still respects sound at_id still enough

namespace Overtaken

open Rewritten (services place root name)

-- a slow load builds from a source that is then written over, and stores what it built when another
-- load has already begun
def slow : List Event :=
  [.start name none, .step 0, .step 0,
    .write (.file place (Utf8.encodeText "#words 119734787 65536 0 1 0") 0)]

def quick : List Event := [.step 0, .step 1, .step 1, .step 1]

def begun : Shared := (Shared.idle root Rewritten.empty).run services slow

def started : Shared := begun.after services (.start name none)

def stored : Shared := started.run services [.step 0]

def ended : Shared := started.run services quick

def wordCount : Loading → Option Nat
  | .returned _ ⟨_, .ok loaded⟩ => some loaded.module.bytecode.length
  | _ => none

end Overtaken

open Overtaken Rewritten in
theorem load_amid_writes_overtaken :
    services.compile.Respects ∧ (∀ e ∈ quick, e.isWrite = false) ∧
      3 ≤ quick.countP (·.moves begun.loads.length) ∧
      wordCounts stored.library = [0] ∧ ended.loads.map wordCount = [some 0, some 5] ∧
      ∃ calls outcome, ended.loads[begun.loads.length]? = some (.returned calls outcome) ∧
        SameOutcome outcome.result
          ((withRoot root).load services ended.tree name none).outcome.result := by
  have respects : services.compile.Respects := ScriptedCompiler.respects []
  have still : ∀ e ∈ quick, e.isWrite = false := by decide +kernel
  have enough : 3 ≤ quick.countP (·.moves begun.loads.length) := by decide +kernel
  exact ⟨respects, still, enough, by decide +kernel, by decide +kernel,
    (load_amid_writes respects root Rewritten.empty slow quick name none).2 still enough⟩

end SceneGpu.Library
