import SceneGpu.Proofs.Collection.Lists
import SceneGpu.Proofs.Shader.ActiveArtifact
import SceneGpu.Proofs.Shader.CacheCoherence
/-!
When a load calls the compiler: once, if the file it reads is a source that its cache has no entry
for. The cache has one entry for a path, so an entry that is there is the one that is looked at.
-/
namespace SceneGpu

open Files

theorem Artifact.agrees_refl (a : Artifact) : a.agrees a = true := by
  cases a with
  | bytecode p => exact p.agrees_refl
  | source p => exact p.agrees_refl

def errors (records : List Record) : List Record := records.filter (·.level = .error)

namespace Logged

structure Yields {α : Type} (x : Logged α) (a : α) (told : List Record) : Prop where
  result : x.result = .ok a
  errors : errors x.records = told

section Yields

variable {α β : Type} {x : Logged α} {f : α → Logged β} {a : α} {b : β} {told more : List Record}

theorem Yields.say {records : List Record} (tells : SceneGpu.errors records = told) :
    (Logged.say records).Yields () told :=
  ⟨rfl, tells⟩

theorem Yields.bind (first : x.Yields a told) (second : (f a).Yields b more) :
    (x >>= f).Yields b (told ++ more) := by
  change (andThen x f).Yields b (told ++ more)
  unfold andThen
  rw [first.result]
  refine ⟨second.result, ?_⟩
  rw [SceneGpu.errors, List.filter_append]
  exact congrArg₂ _ first.errors second.errors

theorem Yields.within (yields : x.Yields a told) (context : String) :
    (x.within context).Yields a told := by
  refine ⟨?_, yields.errors⟩
  rw [Logged.within, yields.result]
  rfl

end Yields

end Logged

namespace Library

def KeysApart (entries : List CacheEntry) : Prop := (entries.map (·.key.meaning)).Nodup

section KeysApart

variable {entries : List CacheEntry} {l : Library}

theorem store_keys (entries : List CacheEntry) (e : CacheEntry) :
    (store entries e).map (·.key.meaning) =
      if e.key.meaning ∈ entries.map (·.key.meaning) then entries.map (·.key.meaning)
      else entries.map (·.key.meaning) ++ [e.key.meaning] := by
  induction entries with
  | nil => simp [store]
  | cons x rest ih =>
    unfold store
    by_cases same : x.key.meaning = e.key.meaning
    · rw [if_pos (Path.agrees_iff_meaning.mpr same)]
      simp [same]
    · rw [if_neg (mt Path.agrees_iff_meaning.mp same), List.map_cons, ih]
      by_cases old : e.key.meaning ∈ rest.map (·.key.meaning)
      · have among : e.key.meaning ∈ (x :: rest).map (·.key.meaning) := by
          rw [List.map_cons]
          exact List.mem_cons_of_mem _ old
        rw [if_pos old, if_pos among, List.map_cons]
      · have new : e.key.meaning ∉ (x :: rest).map (·.key.meaning) := by
          rw [List.map_cons, List.mem_cons, not_or]
          exact ⟨Ne.symm same, old⟩
        rw [if_neg old, if_neg new, List.map_cons, List.cons_append]

theorem KeysApart.store (apart : KeysApart entries) (e : CacheEntry) :
    KeysApart (Library.store entries e) := by
  unfold KeysApart
  rw [store_keys]
  split
  · exact apart
  · rename_i new
    rw [← List.concat_eq_append]
    exact List.Nodup.concat new apart

theorem KeysApart.sublist {fewer : List CacheEntry} (apart : KeysApart entries)
    (sub : fewer.Sublist entries) : KeysApart fewer :=
  List.Nodup.sublist (sub.map _) apart

theorem keysApart_serve {s : Services} {call : Tree × Request} (apart : KeysApart l.cache) :
    KeysApart (serve s l call).cache := by
  obtain ⟨t, request⟩ := call
  cases request with
  | load path owner =>
    change KeysApart (l.load s t path owner).library.cache
    rcases l.load_library s t path owner with kept | ⟨requested, m, _, _, changed⟩
    · rw [kept]
      exact apart
    · rw [changed]
      exact apart.store _
  | invalidate path => exact apart.sublist List.filter_sublist
  | invalidateStale paths =>
    change KeysApart (l.invalidateAll t paths).1.cache
    rw [invalidateAll_eq]
    exact apart.sublist List.filter_sublist

def serveEach (l : Library) (calls : List (Services × Tree × Request)) : Library :=
  calls.foldl (fun l call => serve call.1 l call.2) l

theorem keysApart_serveEach {calls : List (Services × Tree × Request)} (apart : KeysApart l.cache) :
    KeysApart (serveEach l calls).cache := by
  induction calls generalizing l with
  | nil => exact apart
  | cons call rest ih => exact ih (keysApart_serve apart)

def Caches (l : Library) (key : Path) (artifact : Artifact) (stamp : Option Stamp) : Prop :=
  ∃ e ∈ l.cache, e.key.agrees key = true ∧ e.artifact.agrees artifact = true ∧ e.stamp = stamp

theorem KeysApart.entry? {key : Path} {e : CacheEntry} (apart : KeysApart l.cache)
    (mem : e ∈ l.cache) (agree : e.key.agrees key = true) : l.entry? key = some e := by
  have search : ∀ x : CacheEntry, x.key.agrees key = decide (x.key.meaning = e.key.meaning) := by
    intro x
    rw [Bool.eq_iff_iff, decide_eq_true_iff, Path.agrees_iff_meaning,
      Path.agrees_iff_meaning.mp agree]
  rw [Library.entry?, funext search]
  exact find?_of_nodup apart mem

theorem current?_eq_none_iff (apart : KeysApart l.cache) {key : Path} {artifact : Artifact}
    {stamp : Option Stamp} : l.current? key artifact stamp = none ↔ ¬ l.Caches key artifact stamp := by
  constructor
  · rintro outdated ⟨e, mem, agree, same, stamped⟩
    rw [current?, apart.entry? mem agree] at outdated
    simp [same, stamped] at outdated
  · intro uncached
    cases current : l.current? key artifact stamp with
    | none => rfl
    | some loaded =>
      obtain ⟨e, mem, agree, same, stamped, _⟩ := current?_mem current
      exact absurd ⟨e, mem, agree, same, stamped⟩ uncached

end KeysApart

/-- What a load compiles: the source that it reads, if the cache has no entry for it as it is now. -/
structure Compiles (l : Library) (t : Tree) (path : Path) (owner : Option Path) (requested : Path)
    (stamp : Option Stamp) (c : Compilation) : Prop where
  resolved : l.resolve? t path owner = some requested
  active : ActiveSource t requested c.origin stamp
  readable : t.readText c.origin = .ok c.source
  stage : c.stage = stageOf c.origin
  uncached : ¬ l.Caches requested (.source c.origin) stamp

section load

variable {s : Services} {l : Library} {t : Tree} {path : Path} {owner : Option Path}
  {c : Compilation}

theorem compilation?_eq_some_iff {a : Artifact} : compilation? t a = some c ↔
    a = .source c.origin ∧ t.readText c.origin = .ok c.source ∧ c.stage = stageOf c.origin := by
  cases a with
  | bytecode p => simp [compilation?]
  | source p =>
    obtain ⟨source, stage, origin⟩ := c
    cases read : t.readText p with
    | error r =>
      simp only [compilation?, read, Except.toOption, Option.map_none, reduceCtorEq,
        Artifact.source.injEq, false_iff]
      rintro ⟨rfl, other, _⟩
      rw [read] at other
      cases other
    | ok text =>
      simp only [compilation?, read, Except.toOption, Option.map_some, Option.some.injEq,
        Compilation.mk.injEq, Artifact.source.injEq]
      constructor
      · rintro ⟨rfl, rfl, rfl⟩
        exact ⟨rfl, read, rfl⟩
      · rintro ⟨rfl, again, rfl⟩
        exact ⟨Except.ok.inj (read.symm.trans again), rfl, rfl⟩

theorem load_calls_eq_iff (apart : KeysApart l.cache) : (l.load s t path owner).calls = [c] ↔
    ∃ requested stamp, Compiles l t path owner requested stamp c := by
  constructor
  · intro once
    cases resolved : l.resolve? t path owner with
    | none => simp [load_unresolved resolved] at once
    | some requested =>
      cases current : l.current? requested (activeArtifact t requested).1
          (activeArtifact t requested).2 with
      | some loaded => simp [load_current resolved current] at once
      | none =>
        rw [load_calls resolved current, Option.toList_eq_singleton_iff,
          compilation?_eq_some_iff] at once
        obtain ⟨source, readable, stage⟩ := once
        rw [source] at current
        have active : activeArtifact t requested =
            (.source c.origin, (activeArtifact t requested).2) := by rw [← source]
        exact ⟨requested, _, resolved, activeArtifact_eq_source_iff.mp active, readable, stage,
          (current?_eq_none_iff apart).mp current⟩
  · rintro ⟨requested, stamp, resolved, active, readable, stage, uncached⟩
    have reads := activeArtifact_eq_source_iff.mpr active
    have outdated := (current?_eq_none_iff apart).mpr uncached
    rw [load_calls resolved (by rw [reads]; exact outdated), reads, Option.toList_eq_singleton_iff,
      compilation?_eq_some_iff]
    exact ⟨rfl, readable, stage⟩

theorem load_calls_cases (s : Services) (l : Library) (t : Tree) (path : Path)
    (owner : Option Path) :
    (l.load s t path owner).calls = [] ∨ ∃ c, (l.load s t path owner).calls = [c] := by
  cases resolved : l.resolve? t path owner with
  | none => exact .inl (by rw [load_unresolved resolved])
  | some requested =>
    cases current : l.current? requested (activeArtifact t requested).1
        (activeArtifact t requested).2 with
    | some loaded => exact .inl (by rw [load_current resolved current])
    | none =>
      rw [load_calls resolved current]
      cases compilation? t (activeArtifact t requested).1 with
      | none => exact .inl rfl
      | some c => exact .inr ⟨c, rfl⟩

theorem find?_store (entries : List CacheEntry) (e : CacheEntry) :
    ∃ key, (store entries e).find? (·.key.agrees e.key) = some { e with key } := by
  induction entries with
  | nil => exact ⟨e.key, List.find?_cons_of_pos (Path.agrees_refl e.key)⟩
  | cons x rest ih =>
    unfold store
    by_cases same : x.key.agrees e.key = true
    · rw [if_pos same]
      exact ⟨x.key, List.find?_cons_of_pos same⟩
    · rw [if_neg same]
      obtain ⟨key, found⟩ := ih
      exact ⟨key, (List.find?_cons_of_neg (p := fun y : CacheEntry => y.key.agrees e.key) same).trans
        found⟩

theorem load_stored {entries : List CacheEntry} {e : CacheEntry}
    (resolved : l.resolve? t path owner = some e.key)
    (active : activeArtifact t e.key = (e.artifact, e.stamp))
    (stored : l.cache = store entries e) :
    l.load s t path owner = ⟨l, [], Logged.succeed e.loaded⟩ := by
  refine load_current resolved ?_
  obtain ⟨key, found⟩ := find?_store entries e
  rw [current?, entry?, stored, found, active]
  simp [Artifact.agrees_refl]

def uncompiled (c : Compilation) : ShaderModule := ⟨c.stage, c.origin, [], Specs.empty, []⟩

def compileError (c : Compilation) (e : CompileError) : Record :=
  .error .shader ("Error in shader compilation of " ++ c.origin.display ++ ": " ++ e.message)

theorem errors_stageFor (path : Path) : errors (stageFor path).records = [] := by
  unfold stageFor
  split
  · rfl
  · rfl

theorem errors_recompileRemark (requested path : Path) :
    errors (recompileRemark requested path) = [] := by
  unfold recompileRemark
  split
  · rfl
  · rfl

theorem wordsOfCompilation_yields {compile : Compiler} {e : CompileError}
    (failed : compile c = .error e) :
    (wordsOfCompilation compile c).Yields [] [compileError c e] := by
  unfold wordsOfCompilation
  rw [failed]
  exact ⟨rfl, rfl⟩

theorem words_yields {requested : Path} {e : CompileError}
    (read : t.readText c.origin = .ok c.source) (failed : s.compile c = .error e) :
    (words s.compile t requested c.stage (.source c.origin)).outcome.Yields []
      [compileError c e] := by
  simp only [words, read]
  exact (Logged.Yields.say (errors_recompileRemark requested c.origin)).bind
    (wordsOfCompilation_yields failed)

/-- A failed compilation is told of once, and leaves nothing to reflect. -/
theorem build_yields (requested : Path) {e : CompileError}
    (read : t.readText c.origin = .ok c.source) (stage : c.stage = stageOf c.origin)
    (failed : s.compile c = .error e) :
    (build s t requested (.source c.origin)).outcome.Yields (uncompiled c) [compileError c e] := by
  have assembled : (assemble s c.stage c.origin []).Yields (uncompiled c) [] := ⟨rfl, rfl⟩
  have remarked := Logged.Yields.say (errors_stageFor c.origin)
  rw [build_eq]
  dsimp only [Artifact.path]
  rw [← stage]
  exact (remarked.bind ((words_yields read failed).bind assembled)).within _

end load

structure Compiling (s : Services) (l : Library) (t : Tree) (path : Path) (owner : Option Path) :
    Prop where
  once : (l.load s t path owner).calls = [] ∨ ∃ c, (l.load s t path owner).calls = [c]
  exactly : ∀ c, (l.load s t path owner).calls = [c] ↔
    ∃ requested stamp, Compiles l t path owner requested stamp c
  cached : ∀ c loaded, (l.load s t path owner).calls = [c] →
    (l.load s t path owner).outcome.result = .ok loaded →
    ∃ requested stamp, Compiles l t path owner requested stamp c ∧
      (l.load s t path owner).library = { l with
        cache := store l.cache ⟨requested, .source c.origin, stamp, loaded⟩, builds := l.builds + 1 } ∧
      ∀ s', (l.load s t path owner).library.load s' t path owner =
        ⟨(l.load s t path owner).library, [], Logged.succeed loaded⟩
  failed : ∀ c e, (l.load s t path owner).calls = [c] → s.compile c = .error e →
    (l.load s t path owner).outcome.result = .ok ⟨uncompiled c, l.builds⟩ ∧
      errors (l.load s t path owner).outcome.records = [compileError c e]

section compiles

variable {s : Services} {l : Library} {t : Tree} {path : Path} {owner : Option Path}
  {requested : Path} {stamp : Option Stamp} {c : Compilation}

theorem Compiles.outdated (compiles : Compiles l t path owner requested stamp c)
    (apart : KeysApart l.cache) :
    l.current? requested (activeArtifact t requested).1 (activeArtifact t requested).2 = none := by
  rw [activeArtifact_eq_source_iff.mpr compiles.active]
  exact (current?_eq_none_iff apart).mpr compiles.uncached

theorem Compiles.cached (compiles : Compiles l t path owner requested stamp c)
    (apart : KeysApart l.cache) {loaded : Loaded}
    (gives : (l.load s t path owner).outcome.result = .ok loaded) :
    (l.load s t path owner).library = { l with
      cache := store l.cache ⟨requested, .source c.origin, stamp, loaded⟩,
      builds := l.builds + 1 } := by
  have outdated := compiles.outdated apart
  cases built : (build s t requested (activeArtifact t requested).1).outcome.result with
  | error f =>
    rw [(load_unbuilt compiles.resolved outdated built).2] at gives
    cases gives
  | ok m =>
    obtain ⟨library, result⟩ := load_built compiles.resolved outdated built
    obtain rfl : _ = loaded := Except.ok.inj (result.symm.trans gives)
    rw [library, activeArtifact_eq_source_iff.mpr compiles.active]

/-- The next load finds what this one left, if no file changes in between. -/
theorem Compiles.again (compiles : Compiles l t path owner requested stamp c)
    (apart : KeysApart l.cache) {loaded : Loaded}
    (gives : (l.load s t path owner).outcome.result = .ok loaded) (s' : Services) :
    (l.load s t path owner).library.load s' t path owner =
      ⟨(l.load s t path owner).library, [], Logged.succeed loaded⟩ := by
  have resolved : (l.load s t path owner).library.resolve? t path owner = some requested := by
    rw [resolve?, roots, load_defaultRoot]
    exact compiles.resolved
  have stored : (l.load s t path owner).library.cache =
      store l.cache ⟨requested, .source c.origin, stamp, loaded⟩ := by
    rw [compiles.cached apart gives]
  exact load_stored (e := ⟨requested, .source c.origin, stamp, loaded⟩) resolved
    (activeArtifact_eq_source_iff.mpr compiles.active) stored

theorem Compiles.failed (compiles : Compiles l t path owner requested stamp c)
    (apart : KeysApart l.cache) {e : CompileError} (fails : s.compile c = .error e) :
    (l.load s t path owner).outcome.result = .ok ⟨uncompiled c, l.builds⟩ ∧
      errors (l.load s t path owner).outcome.records = [compileError c e] := by
  have outdated := compiles.outdated apart
  have failure := build_yields requested compiles.readable compiles.stage fails
  have reads : (activeArtifact t requested).1 = .source c.origin := by
    rw [activeArtifact_eq_source_iff.mpr compiles.active]
  rw [← reads] at failure
  rw [(load_outdated compiles.resolved outdated).2]
  exact ⟨(load_built compiles.resolved outdated failure.result).2, failure.errors⟩

end compiles

/-- After any calls, a load calls the compiler at most once, and that for a source which the cache has
no entry for. What it gives it keeps, if the compiler failed as well. -/
theorem load_compiles (s : Services) (root : Path) (calls : List (Services × Tree × Request))
    (t : Tree) (path : Path) (owner : Option Path) :
    Compiling s (serveEach (withRoot root) calls) t path owner := by
  have apart : KeysApart (serveEach (withRoot root) calls).cache := keysApart_serveEach List.nodup_nil
  refine ⟨load_calls_cases s _ t path owner, fun c => load_calls_eq_iff apart, ?_, ?_⟩
  · intro c loaded called gives
    obtain ⟨requested, stamp, compiles⟩ := (load_calls_eq_iff apart).mp called
    exact ⟨requested, stamp, compiles, compiles.cached apart gives, compiles.again apart gives⟩
  · intro c e called fails
    obtain ⟨requested, stamp, compiles⟩ := (load_calls_eq_iff apart).mp called
    exact compiles.failed apart fails

namespace Unparsed

-- a source that does not compile
def services : Services := ⟨ScriptedCompiler.compiler [], Bytecode.introspect⟩

def tree (stamp : Stamp) : Tree :=
  (Tree.empty [] 0).put [Utf8.encodeText "a.vert"]
    (some (.file (Utf8.encodeText "#error") stamp false))

def name : Path := Path.ofText "a.vert"

def attempt (t : Tree) (calls : List (Services × Tree × Request)) : Load :=
  (serveEach (withRoot (Path.ofText "/")) calls).load services t name none

-- it is tried once, and again when it was written over or dropped
example : (attempt (tree 1) []).calls = [⟨"#error", .vertex, Path.ofText "/a.vert"⟩] ∧
    (attempt (tree 1) [(services, tree 1, .load name none)]).calls = [] ∧
    (attempt (tree 2) [(services, tree 1, .load name none)]).calls.length = 1 ∧
    (attempt (tree 1) [(services, tree 1, .load name none),
      (services, tree 1, .invalidate (Path.ofText "a.vert"))]).calls.length = 1 := by
  decide +kernel

end Unparsed

end Library
end SceneGpu
