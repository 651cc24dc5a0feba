import SceneGpu.Bytecode.Resource
import SceneGpu.Collection
import SceneGpu.Report.Journal
import SceneGpu.Shader.Compiler
import SceneGpu.Shader.Module
/-!
The shader library. It finds a requested shader under the owner's root or the default root, compiles
the source where it is newer than the bytecode file, and keeps what it built until the file it was
built from changes.

Descriptor specs come from a stage's resources. A uniform buffer keeps, for each member name, the
active range of lowest index; a buffer without active members is left out. The first sampled image
stands for all input textures, unless it is the array of object textures.
-/
namespace SceneGpu

open Files

def objectTextures : String := "ObjectTextures"

def inputTextures : String := "inputs"

def Member.ofRange (r : Bytecode.ActiveRange) : Member := ⟨r.name, r.index, r.offset, r.range⟩

def activeMembers (ranges : List Bytecode.ActiveRange) : List Member :=
  (firstsOn (·.name) (sortOn (·.index.toNat) ranges)).map Member.ofRange

namespace Specs

def bufferEntry? (b : Bytecode.UniformBuffer) : Option (String × Spec) :=
  match activeMembers b.active with
  | [] => none
  | m :: ms => some (b.name, ⟨b.name, b.set, b.binding, .uniformBuffer, m :: ms⟩)

def ofBuffers (buffers : List Bytecode.UniformBuffer) : Specs :=
  ofList (buffers.filterMap bufferEntry?)

def imageEntry? (images : List Bytecode.SampledImage) : Option (String × Spec) :=
  match images with
  | [] => none
  | i :: _ =>
    if i.name = objectTextures then none
    else some (i.name, ⟨inputTextures, i.set, 0, .inputTextures, []⟩)

def ofResources (r : Bytecode.Resources) : Specs :=
  let buffers := ofBuffers r.uniformBuffers
  match imageEntry? r.sampledImages with
  | none => buffers
  | some (key, spec) => (buffers.insertIfAbsent key spec).1

end Specs

/-- Tells of each uniform buffer found, and why one of them is passed over. -/
def bufferRemarks (path : Path) : Specs → List Bytecode.UniformBuffer → List Record
  | _, [] => []
  | found, b :: rest =>
    let say := Record.remark .debug .library
    let head := say (path.display ++ ": " ++ b.name ++ s!", set={b.set}, binding={b.binding}")
    match Specs.bufferEntry? b with
    | none =>
      head :: say ("Skipping " ++ b.name ++ ": no active members") :: bufferRemarks path found rest
    | some (key, spec) =>
      match found.insertIfAbsent key spec with
      | (more, true) => head :: bufferRemarks path more rest
      | (_, false) =>
        head :: say ("Ignoring second uniform buffer named " ++ b.name) ::
          bufferRemarks path found rest

/-- Stamps are coarse: a source must beat its bytecode by more than this, in nanoseconds. -/
def freshnessBias : Int := 500000000

/-- Bytecode that is missing counts as written at the epoch. -/
def sourceIsNewer (bytecode : Option Stamp) (source : Stamp) : Bool :=
  bytecode.getD 0 + freshnessBias < source

inductive Artifact where
  | bytecode (path : Path)
  | source (path : Path)
deriving DecidableEq, Repr

namespace Artifact

def path : Artifact → Path
  | .bytecode p => p
  | .source p => p

def agrees : Artifact → Artifact → Bool
  | .bytecode p, .bytecode q => p.agrees q
  | .source p, .source q => p.agrees q
  | _, _ => false

end Artifact

/-- The file a request reads, with its stamp. A bytecode request reads the source beside it if that
is newer. -/
def activeArtifact (t : Tree) (requested : Path) : Artifact × Option Stamp :=
  if requested.isBytecode then
    let stamp := t.modified? requested
    match requested.source? with
    | none => (.bytecode requested, stamp)
    | some source =>
      match t.modified? source with
      | none => (.bytecode requested, stamp)
      | some sourceStamp =>
        if sourceIsNewer stamp sourceStamp then (.source source, some sourceStamp)
        else (.bytecode requested, stamp)
  else (.source requested, t.modified? requested)

structure Services where
  compile : Compiler
  introspect : List UInt32 → Except Bytecode.Fault Bytecode.Resources

structure Loaded where
  module : ShaderModule
  build : Nat
deriving DecidableEq, Repr

structure CacheEntry where
  key : Path
  artifact : Artifact
  stamp : Option Stamp
  loaded : Loaded
deriving DecidableEq, Repr

structure Library where
  defaultRoot : Path
  cache : List CacheEntry
  builds : Nat
deriving DecidableEq, Repr

namespace Library

def withRoot (root : Path) : Library := ⟨root, [], 0⟩

def holds (t : Tree) (candidate : Path) : Bool :=
  t.contains candidate || (candidate.source?).any t.contains

def roots (l : Library) (owner : Option Path) : List Path := owner.toList ++ [l.defaultRoot]

def resolve? (l : Library) (t : Tree) (path : Path) (owner : Option Path) : Option Path :=
  ((l.roots owner).map (·.join path)).find? (holds t)

def entry? (l : Library) (key : Path) : Option CacheEntry := l.cache.find? (·.key.agrees key)

def current? (l : Library) (key : Path) (artifact : Artifact) (stamp : Option Stamp) :
    Option Loaded :=
  ((l.entry? key).filter fun e => e.artifact.agrees artifact && e.stamp = stamp).map (·.loaded)

/-- A shader of unknown extension counts as a vertex shader. -/
def stageFor (path : Path) : Logged Stage :=
  match path.stage? with
  | some s => Logged.succeed s
  | none => ⟨[.warning .shader ("Unknown shader extension '." ++ path.stageExtension ++ "' on " ++
      path.display ++ ", assuming vertex stage")], .ok .vertex⟩

def readFailure (path : Path) (r : Refusal) : Failure :=
  ⟨["Failed to read " ++ path.display], .files r⟩

structure Words where
  calls : List Compilation
  outcome : Logged (List UInt32)

def wordsOfFile (t : Tree) (path : Path) : Except Failure (List UInt32) :=
  match t.read path with
  | .error r => .error (readFailure path r)
  | .ok bytes =>
    match Bytecode.wordsOfBytes bytes with
    | .error fault => .error ⟨["Invalid SPIR-V in " ++ path.display], .bytecode fault⟩
    | .ok words => .ok words

def recompileRemark (requested path : Path) : List Record :=
  if path.agrees requested then []
  else [.remark .info .library
    ("Recompiling " ++ requested.display ++ ", as source file is newer than SPV file")]

def wordsOfCompilation (compile : Compiler) (c : Compilation) : Logged (List UInt32) :=
  let start := Record.remark .info .library
    ("Compiling " ++ c.origin.display ++ " (" ++ c.stage.name ++ ")")
  match compile c with
  | .ok words => ⟨[start], .ok words⟩
  | .error e => ⟨[start, .error .shader
      ("Error in shader compilation of " ++ c.origin.display ++ ": " ++ e.message)], .ok []⟩

def words (compile : Compiler) (t : Tree) (requested : Path) (stage : Stage) : Artifact → Words
  | .bytecode path => ⟨[], Logged.ofResult (wordsOfFile t path)⟩
  | .source path =>
    match t.readText path with
    | .error r =>
      ⟨[], ⟨recompileRemark requested path, .error (readFailure path r)⟩⟩
    | .ok source =>
      let c : Compilation := ⟨source, stage, path⟩
      ⟨[c], do
        Logged.say (recompileRemark requested path)
        wordsOfCompilation compile c⟩

def reflect (s : Services) (path : Path) (words : List UInt32) : Logged (Specs × List String) :=
  match words with
  | [] => Logged.succeed (Specs.empty, [])
  | _ =>
    match s.introspect words with
    | .error fault => Logged.fail ⟨["Failed to reflect " ++ path.display], .bytecode fault⟩
    | .ok r => ⟨bufferRemarks path Specs.empty r.uniformBuffers,
        .ok (Specs.ofResources r, r.stageInputs)⟩

def assemble (s : Services) (stage : Stage) (path : Path) (words : List UInt32) :
    Logged ShaderModule := do
  let (specs, inputs) ← reflect s path words
  return ⟨stage, path, words, specs, inputs⟩

structure Build where
  calls : List Compilation
  outcome : Logged ShaderModule

def build (s : Services) (t : Tree) (requested : Path) (artifact : Artifact) : Build :=
  let path := artifact.path
  let stage := stageFor path
  match stage.result with
  | .error e => ⟨[], ⟨stage.records, .error e⟩⟩
  | .ok g =>
    let w := words s.compile t requested g artifact
    let outcome : Logged ShaderModule := do
      Logged.say stage.records
      let bytecode ← w.outcome
      assemble s g path bytecode
    ⟨w.calls, outcome.within ("Failed to load shader " ++ requested.display)⟩

def store (entries : List CacheEntry) (e : CacheEntry) : List CacheEntry :=
  match entries with
  | [] => [e]
  | x :: rest => if x.key.agrees e.key then { e with key := x.key } :: rest else x :: store rest e

structure Load where
  library : Library
  calls : List Compilation
  outcome : Logged Loaded

def load (l : Library) (s : Services) (t : Tree) (path : Path) (owner : Option Path) : Load :=
  match l.resolve? t path owner with
  | none => ⟨l, [], Logged.fail (Failure.ofCause (.shaderNotFound path))⟩
  | some requested =>
    let (artifact, stamp) := activeArtifact t requested
    match l.current? requested artifact stamp with
    | some loaded => ⟨l, [], Logged.succeed loaded⟩
    | none =>
      let b := build s t requested artifact
      match b.outcome.result with
      | .error e => ⟨l, b.calls, ⟨b.outcome.records, .error e⟩⟩
      | .ok m =>
        let loaded : Loaded := ⟨m, l.builds⟩
        let cache := store l.cache ⟨requested, artifact, stamp, loaded⟩
        ⟨{ l with cache, builds := l.builds + 1 }, b.calls, ⟨b.outcome.records, .ok loaded⟩⟩

/-- An entry touches a file that is its key, the file it was built from, or the source beside its
key. -/
def CacheEntry.touches (t : Tree) (path : Path) (e : CacheEntry) : Bool :=
  t.sameFile e.key path || t.sameFile e.artifact.path path ||
    (e.key.source?).any fun source => t.sameFile source path

def invalidate (l : Library) (t : Tree) (path : Path) : Library × Nat :=
  let kept := l.cache.filter fun e => !CacheEntry.touches t path e
  ({ l with cache := kept }, l.cache.length - kept.length)

def invalidateAll (l : Library) (t : Tree) : List Path → Library × Nat
  | [] => (l, 0)
  | path :: rest =>
    let first := l.invalidate t path
    let others := first.1.invalidateAll t rest
    (others.1, first.2 + others.2)

end Library
end SceneGpu
