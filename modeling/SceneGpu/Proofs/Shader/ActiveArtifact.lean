import SceneGpu.Proofs.Path.Suffix
import SceneGpu.Proofs.Shader.Built
/-!
Which file a load reads, and what it compiles. A request that is found leads to a file that exists,
except where only a source is there that is not younger than the epoch by more than half a second.
-/
namespace SceneGpu

open Files

theorem Files.Tree.contains_iff_modified? {t : Tree} {p : Path} :
    t.contains p = true ↔ ∃ stamp, t.modified? p = some stamp := by
  unfold contains modified?
  cases t.find p with
  | error r => simp [Except.isOk, Except.toBool]
  | ok found => simp [Except.isOk, Except.toBool]

theorem Files.Tree.modified?_eq_none {t : Tree} {p : Path} (missing : t.contains p = false) :
    t.modified? p = none := by
  cases stamped : t.modified? p with
  | none => rfl
  | some stamp =>
    rw [contains_iff_modified?.mpr ⟨stamp, stamped⟩] at missing
    cases missing

/-- The source that a load compiles, with its stamp: the request itself, or the source beside a
bytecode file that is older by more than half a second. Missing bytecode is as old as the epoch. -/
inductive ActiveSource (t : Tree) (requested : Path) : Path → Option Stamp → Prop
  | plain (source : requested.isBytecode = false) :
    ActiveSource t requested requested (t.modified? requested)
  | newer {source : Path} {stamp : Stamp} (bytecode : requested.isBytecode = true)
    (beside : requested.source? = some source) (stamped : t.modified? source = some stamp)
    (later : (t.modified? requested).getD 0 + 500000000 < stamp) :
    ActiveSource t requested source (some stamp)

section active

variable {t : Tree} {requested : Path}

theorem activeArtifact_plain (source : requested.isBytecode = false) :
    activeArtifact t requested = (.source requested, t.modified? requested) := by
  simp [activeArtifact, source]

theorem activeArtifact_newer {source : Path} {stamp : Stamp}
    (bytecode : requested.isBytecode = true) (beside : requested.source? = some source)
    (stamped : t.modified? source = some stamp)
    (later : (t.modified? requested).getD 0 + 500000000 < stamp) :
    activeArtifact t requested = (.source source, some stamp) := by
  simp [activeArtifact, bytecode, beside, stamped, sourceIsNewer, freshnessBias, later]

theorem activeArtifact_older (bytecode : requested.isBytecode = true)
    (older : ∀ source stamp, requested.source? = some source → t.modified? source = some stamp →
      stamp ≤ (t.modified? requested).getD 0 + 500000000) :
    activeArtifact t requested = (.bytecode requested, t.modified? requested) := by
  cases beside : requested.source? with
  | none => simp only [activeArtifact, bytecode, beside, ↓reduceIte]
  | some source =>
    cases stamped : t.modified? source with
    | none => simp only [activeArtifact, bytecode, beside, stamped, ↓reduceIte]
    | some stamp =>
      have late := Int.not_lt.mpr (older source stamp beside stamped)
      simp only [activeArtifact, bytecode, beside, stamped, sourceIsNewer, freshnessBias, late,
        decide_false, Bool.false_eq_true, ↓reduceIte]

theorem activeArtifact_cases (t : Tree) (requested : Path) :
    (∃ source stamp, ActiveSource t requested source stamp ∧
      activeArtifact t requested = (.source source, stamp)) ∨
    (requested.isBytecode = true ∧
      (∀ source stamp, requested.source? = some source → t.modified? source = some stamp →
        stamp ≤ (t.modified? requested).getD 0 + 500000000) ∧
      activeArtifact t requested = (.bytecode requested, t.modified? requested)) := by
  cases bytecode : requested.isBytecode with
  | false => exact .inl ⟨_, _, .plain bytecode, activeArtifact_plain bytecode⟩
  | true =>
    by_cases beaten : ∃ source stamp, requested.source? = some source ∧
        t.modified? source = some stamp ∧ (t.modified? requested).getD 0 + 500000000 < stamp
    · obtain ⟨source, stamp, beside, stamped, later⟩ := beaten
      exact .inl ⟨_, _, .newer bytecode beside stamped later,
        activeArtifact_newer bytecode beside stamped later⟩
    · have older : ∀ source stamp, requested.source? = some source →
          t.modified? source = some stamp → stamp ≤ (t.modified? requested).getD 0 + 500000000 := by
        intro source stamp beside stamped
        refine Int.not_lt.mp ?_
        intro later
        exact beaten ⟨source, stamp, beside, stamped, later⟩
      exact .inr ⟨rfl, older, activeArtifact_older bytecode older⟩

theorem activeArtifact_eq_source_iff {source : Path} {stamp : Option Stamp} :
    activeArtifact t requested = (.source source, stamp) ↔ ActiveSource t requested source stamp := by
  constructor
  · intro active
    rcases activeArtifact_cases t requested with ⟨_, _, holds, reads⟩ | ⟨_, _, reads⟩
    · obtain ⟨rfl, rfl⟩ : _ = source ∧ _ = stamp := by simpa [reads] using active
      exact holds
    · simp [reads] at active
  · intro holds
    cases holds with
    | plain source => exact activeArtifact_plain source
    | newer bytecode beside stamped later => exact activeArtifact_newer bytecode beside stamped later

end active

namespace Library

def compilation? (t : Tree) : Artifact → Option Compilation
  | .bytecode _ => none
  | .source path => (t.readText path).toOption.map fun source => ⟨source, stageOf path, path⟩

section calls

variable (s : Services) (t : Tree)

theorem words_calls (requested : Path) (artifact : Artifact) :
    (words s.compile t requested (stageOf artifact.path) artifact).calls =
      (compilation? t artifact).toList := by
  cases artifact with
  | bytecode path => rfl
  | source path =>
    simp only [words, compilation?]
    cases t.readText path with
    | error r => simp [Except.toOption]
    | ok source => simp [Except.toOption, Artifact.path]

theorem build_calls (requested : Path) (artifact : Artifact) :
    (build s t requested artifact).calls = (compilation? t artifact).toList := by
  rw [build_eq]
  exact words_calls s t requested artifact

variable {s t} {l : Library} {path : Path} {owner : Option Path} {requested : Path}

theorem load_outdated (resolved : l.resolve? t path owner = some requested)
    (outdated : l.current? requested (activeArtifact t requested).1 (activeArtifact t requested).2 =
      none) :
    (l.load s t path owner).calls = (build s t requested (activeArtifact t requested).1).calls ∧
      (l.load s t path owner).outcome.records =
        (build s t requested (activeArtifact t requested).1).outcome.records := by
  unfold load
  simp only [resolved, outdated]
  cases (build s t requested (activeArtifact t requested).1).outcome.result with
  | error e => simp only [and_self]
  | ok m => simp only [and_self]

theorem load_calls (resolved : l.resolve? t path owner = some requested)
    (outdated : l.current? requested (activeArtifact t requested).1 (activeArtifact t requested).2 =
      none) :
    (l.load s t path owner).calls = (compilation? t (activeArtifact t requested).1).toList :=
  (load_outdated resolved outdated).1.trans (build_calls s t requested _)

theorem resolve?_holds (resolved : l.resolve? t path owner = some requested) :
    t.contains requested = true ∨
      ∃ source, requested.source? = some source ∧ t.contains source = true := by
  have held := List.find?_some resolved
  simp only [holds, Bool.or_eq_true] at held
  exact held.imp_right fun beside => by simpa [Option.any_eq_true] using beside

end calls

/-- What a load reads of a request that was found. It is missing only where there is no bytecode and
the source counts as too old; a later source is what is compiled. -/
structure Reading (l : Library) (t : Tree) (path : Path) (owner : Option Path) (requested : Path) :
    Prop where
  missing : t.contains (activeArtifact t requested).1.path = false ↔
    t.contains requested = false ∧ ∃ source stamp, requested.source? = some source ∧
      t.modified? source = some stamp ∧ stamp ≤ 500000000
  compiled : ∀ source stamp, t.contains requested = false → requested.source? = some source →
    t.modified? source = some stamp → 500000000 < stamp →
    activeArtifact t requested = (.source source, some stamp) ∧
      ∀ (s : Services) text, t.readText source = .ok text →
        l.current? requested (.source source) (some stamp) = none →
        (l.load s t path owner).calls = [⟨text, stageOf source, source⟩]

theorem resolved_reading {l : Library} {t : Tree} {path : Path} {owner : Option Path}
    {requested : Path} (resolved : l.resolve? t path owner = some requested)
    (named : requested.IsBareSuffix → t.contains requested = true) :
    Reading l t path owner requested := by
  have bytecode : ∀ source, t.contains requested = false → requested.source? = some source →
      requested.isBytecode = true := by
    intro source gone beside
    refine Path.isBytecode_of_source? beside ?_
    intro bare
    rw [named bare] at gone
    cases gone
  have epoch : t.contains requested = false → (t.modified? requested).getD 0 = 0 := by
    intro gone
    rw [Tree.modified?_eq_none gone, Option.getD_none]
  have newer : ∀ source stamp, t.contains requested = false → requested.source? = some source →
      t.modified? source = some stamp → 500000000 < stamp →
      activeArtifact t requested = (.source source, some stamp) := by
    intro source stamp gone beside stamped late
    exact activeArtifact_newer (bytecode source gone beside) beside stamped
      (by rw [epoch gone, Int.zero_add]; exact late)
  refine ⟨⟨?_, ?_⟩, ?_⟩
  · intro missing
    rcases activeArtifact_cases t requested with ⟨source, stamp, active, reads⟩ | ⟨_, older, reads⟩
    · rw [reads] at missing
      cases active with
      | plain plain =>
        -- a source request that is missing was found by a source beside it, so it is bytecode
        rcases resolve?_holds resolved with there | ⟨source, beside, _⟩
        · exact absurd there (Bool.eq_false_iff.mp missing)
        · exact absurd (bytecode source missing beside) (Bool.eq_false_iff.mp plain)
      | newer _ _ stamped _ =>
        exact absurd (Tree.contains_iff_modified?.mpr ⟨_, stamped⟩) (Bool.eq_false_iff.mp missing)
    · rw [reads] at missing
      have gone : t.contains requested = false := missing
      rcases resolve?_holds resolved with there | ⟨source, beside, there⟩
      · exact absurd there (Bool.eq_false_iff.mp gone)
      · obtain ⟨stamp, stamped⟩ := Tree.contains_iff_modified?.mp there
        have early := older source stamp beside stamped
        rw [epoch gone, Int.zero_add] at early
        exact ⟨gone, source, stamp, beside, stamped, early⟩
  · rintro ⟨gone, source, stamp, beside, stamped, early⟩
    have older : ∀ other taken, requested.source? = some other → t.modified? other = some taken →
        taken ≤ (t.modified? requested).getD 0 + 500000000 := by
      intro other taken beside' stamped'
      obtain rfl : source = other := Option.some.inj (beside.symm.trans beside')
      obtain rfl : stamp = taken := Option.some.inj (stamped.symm.trans stamped')
      rw [epoch gone, Int.zero_add]
      exact early
    rw [activeArtifact_older (bytecode source gone beside) older]
    exact gone
  · intro source stamp gone beside stamped late
    have active := newer source stamp gone beside stamped late
    refine ⟨active, ?_⟩
    intro s text read outdated
    rw [load_calls resolved (by rw [active]; exact outdated), active, compilation?, read]
    rfl

namespace NearEpoch

-- a source without bytecode, some nanoseconds younger than the epoch
def tree (stamp : Stamp) : Tree :=
  (Tree.empty [] 0).put [Utf8.encodeText "a.vert"] (some (.file [] stamp false))

def root : Path := Path.ofText "/"

def name : Path := Path.ofText "a.vert.spv"

def found : Path := Path.ofText "/a.vert.spv"

def source : Path := Path.ofText "/a.vert"

end NearEpoch

open NearEpoch in
theorem resolved_artifact_missing :
    (withRoot root).resolve? (tree 500000000) name none = some found ∧
      (tree 500000000).contains (activeArtifact (tree 500000000) found).1.path = false ∧
      found.source? = some source ∧ (tree 500000000).contains source = true ∧
      (activeArtifact (tree 500000000) found).1 ≠ .source source := by
  decide +kernel

open NearEpoch in
theorem resolved_reading_later :
    (withRoot root).resolve? (tree 500000001) name none = some found ∧ ¬ found.IsBareSuffix ∧
      (tree 500000001).contains found = false ∧
      (tree 500000001).contains (activeArtifact (tree 500000001) found).1.path = true ∧
      activeArtifact (tree 500000001) found = (.source source, some 500000001) := by
  have resolved : (withRoot root).resolve? (tree 500000001) name none = some found := by
    decide +kernel
  have named : ¬ found.IsBareSuffix := by decide +kernel
  have gone : (tree 500000001).contains found = false := by decide +kernel
  have reading := resolved_reading resolved fun bare => absurd bare named
  have active := (reading.compiled source 500000001 gone (by decide +kernel) (by decide +kernel)
    (by decide)).1
  exact ⟨resolved, named, gone, by rw [active]; decide +kernel, active⟩

end Library
end SceneGpu
