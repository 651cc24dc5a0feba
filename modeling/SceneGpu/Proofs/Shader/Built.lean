import SceneGpu.Proofs.Files.Agreement
import SceneGpu.Proofs.Shader.Compilers
import SceneGpu.Shader.Library
/-!
What a build yields, apart from what it says on the way: the module that an artifact holds in a tree.
Of two agreeing artifacts with one stamp the later one holds the same module, if stamps tell contents.
-/
namespace SceneGpu

open Files

namespace Logged

variable {α β : Type}

def value? (x : Logged α) : Option α := x.result.toOption

theorem value?_eq_some {x : Logged α} {a : α} : x.value? = some a ↔ x.result = .ok a := by
  unfold value?
  cases x.result <;> simp [Except.toOption]

theorem value?_bind (x : Logged α) (f : α → Logged β) :
    (x >>= f).value? = x.value?.bind fun a => (f a).value? := by
  change (andThen x f).result.toOption = _
  unfold andThen value?
  split
  · rename_i e eq
    simp [eq, Except.toOption]
  · rename_i a eq
    simp [eq, Except.toOption]

theorem value?_say (records : List Record) : (say records).value? = some () := rfl

theorem value?_pure (a : α) : (pure a : Logged α).value? = some a := rfl

theorem value?_within (context : String) (x : Logged α) : (x.within context).value? = x.value? := by
  unfold value? within SceneGpu.within
  cases x.result <;> rfl

end Logged

/-- One module but for the way its path is written. -/
structure ShaderModule.Same (a b : ShaderModule) : Prop where
  stage : a.stage = b.stage
  path : a.path.agrees b.path = true
  bytecode : a.bytecode = b.bytecode
  specs : a.specs = b.specs
  stageInputs : a.stageInputs = b.stageInputs

theorem ShaderModule.same_refl (m : ShaderModule) : m.Same m :=
  ⟨rfl, Path.agrees_refl _, rfl, rfl, rfl⟩

namespace Artifact

theorem agrees_cases {a b : Artifact} (agree : a.agrees b = true) :
    a.path.agrees b.path = true ∧
      ((∃ p q, a = .bytecode p ∧ b = .bytecode q) ∨ ∃ p q, a = .source p ∧ b = .source q) := by
  cases a <;> cases b <;> simp_all [agrees, path]

end Artifact

namespace Library

/-- The words of an artifact. A source that does not compile has none, which is no failure. -/
def words? (s : Services) (t : Tree) (stage : Stage) : Artifact → Option (List UInt32)
  | .bytecode path => (wordsOfFile t path).toOption
  | .source path => (t.readText path).toOption.map fun source =>
      (s.compile ⟨source, stage, path⟩).toOption.getD []

def reflected? (s : Services) : List UInt32 → Option (Specs × List String)
  | [] => some (Specs.empty, [])
  | words => (s.introspect words).toOption.map fun r => (Specs.ofResources r, r.stageInputs)

def stageOf (path : Path) : Stage := path.stage?.getD .vertex

def module? (s : Services) (t : Tree) (artifact : Artifact) : Option ShaderModule :=
  (words? s t (stageOf artifact.path) artifact).bind fun words =>
    (reflected? s words).map fun r => ⟨stageOf artifact.path, artifact.path, words, r.1, r.2⟩

theorem stageFor_result (path : Path) : (stageFor path).result = .ok (stageOf path) := by
  unfold stageFor stageOf
  split <;> simp_all [Logged.succeed]

theorem wordsOfCompilation_value? (compile : Compiler) (c : Compilation) :
    (wordsOfCompilation compile c).value? = some ((compile c).toOption.getD []) := by
  unfold wordsOfCompilation
  split
  · rename_i words eq
    rw [eq]
    rfl
  · rename_i e eq
    rw [eq]
    rfl

theorem words_value? (s : Services) (t : Tree) (requested : Path) (stage : Stage)
    (artifact : Artifact) :
    (words s.compile t requested stage artifact).outcome.value? = words? s t stage artifact := by
  cases artifact with
  | bytecode path => rfl
  | source path =>
    simp only [words, words?]
    cases t.readText path with
    | error r => rfl
    | ok source =>
      simp only [Logged.value?_bind, wordsOfCompilation_value?]
      rfl

theorem reflect_value? (s : Services) (path : Path) (words : List UInt32) :
    (reflect s path words).value? = reflected? s words := by
  cases words with
  | nil => rfl
  | cons w ws =>
    simp only [reflect, reflected?]
    cases s.introspect (w :: ws) <;> rfl

theorem assemble_value? (s : Services) (stage : Stage) (path : Path) (words : List UInt32) :
    (assemble s stage path words).value? =
      (reflected? s words).map fun r => ⟨stage, path, words, r.1, r.2⟩ := by
  simp only [assemble, Logged.value?_bind, reflect_value?, Logged.value?_pure]
  cases reflected? s words <;> rfl

theorem build_eq (s : Services) (t : Tree) (requested : Path) (artifact : Artifact) :
    build s t requested artifact =
      ⟨(words s.compile t requested (stageOf artifact.path) artifact).calls,
        (Logged.say (stageFor artifact.path).records >>= fun _ =>
          (words s.compile t requested (stageOf artifact.path) artifact).outcome >>= fun bytecode =>
            assemble s (stageOf artifact.path) artifact.path bytecode).within
          ("Failed to load shader " ++ requested.display)⟩ := by
  have decided := stageFor_result artifact.path
  unfold build
  dsimp only
  split
  · rename_i e eq
    rw [decided] at eq
    cases eq
  · rename_i g eq
    rw [decided] at eq
    cases eq
    rfl

theorem build_value? (s : Services) (t : Tree) (requested : Path) (artifact : Artifact) :
    (build s t requested artifact).outcome.value? = module? s t artifact := by
  rw [build_eq, Logged.value?_within, Logged.value?_bind, Logged.value?_say, Option.bind_some,
    Logged.value?_bind, words_value?, module?]
  congr 1
  funext bytecode
  exact assemble_value? s _ _ bytecode

theorem wordsOfFile_congr {t u : Tree} {p q : Path} (reads : t.read p = u.read q) :
    (wordsOfFile t p).toOption = (wordsOfFile u q).toOption := by
  unfold wordsOfFile
  rw [reads]
  cases u.read q with
  | error r => rfl
  | ok bytes =>
    cases eq : Bytecode.wordsOfBytes bytes with
    | error fault => simp [eq, Except.toOption]
    | ok words => simp [eq, Except.toOption]

theorem words?_read {s : Services} {t : Tree} {stage : Stage} {a : Artifact} {words : List UInt32}
    (built : words? s t stage a = some words) : ∃ content, t.read a.path = .ok content := by
  cases a with
  | bytecode path =>
    cases read : t.read path with
    | error r => simp [words?, wordsOfFile, read, Except.toOption] at built
    | ok content => exact ⟨content, read⟩
  | source path =>
    cases read : t.read path with
    | error r => simp [words?, Tree.readText, read, Except.toOption] at built
    | ok content => exact ⟨content, read⟩

theorem words?_of_agrees {s : Services} {t u : Tree} {stage : Stage} {a b : Artifact}
    (respects : s.compile.Respects) (agree : a.agrees b = true)
    (reads : t.read a.path = u.read b.path) : words? s t stage a = words? s u stage b := by
  obtain ⟨paths, ⟨p, q, rfl, rfl⟩ | ⟨p, q, rfl, rfl⟩⟩ := a.agrees_cases agree
  · exact wordsOfFile_congr reads
  · have texts : t.readText p = u.readText q := by
      unfold Tree.readText
      rw [show t.read p = u.read q from reads]
    simp only [words?, texts]
    congr 1
    funext source
    rw [respects source stage p q paths]

theorem module?_of_agrees {s : Services} {t u : Tree} {a b : Artifact} {m : ShaderModule}
    (respects : s.compile.Respects) (tells : t.TellsApart u) (agree : a.agrees b = true)
    (stamps : t.modified? a.path = u.modified? b.path) (built : module? s t a = some m) :
    ∃ n, module? s u b = some n ∧ m.Same n := by
  obtain ⟨words, holds, reflected⟩ := Option.bind_eq_some_iff.mp built
  obtain ⟨r, reads, rfl⟩ := Option.map_eq_some_iff.mp reflected
  obtain ⟨paths, _⟩ := a.agrees_cases agree
  obtain ⟨content, read⟩ := words?_read holds
  have stages : stageOf a.path = stageOf b.path := by simp only [stageOf, Path.stage?_eq paths]
  have again := Tree.read_of_agrees tells paths stamps read
  rw [words?_of_agrees respects agree (read.trans again.symm), stages] at holds
  refine ⟨⟨stageOf b.path, b.path, words, r.1, r.2⟩, ?_, stages, paths, rfl, rfl, rfl⟩
  simp [module?, holds, reads]

end Library
end SceneGpu
