import SceneGpu.Bytecode.Word
import SceneGpu.Shader.Module
import SceneGpu.Text.Basic
import SceneGpu.Tools.Workshop
/-!
Compilation of shader source to bytecode. One compiler runs as an external tool, which reads the source from
its standard input and writes the bytecode to its standard output; another does what its source tells it to,
for trying out what becomes of each outcome.
-/
namespace SceneGpu

inductive CompileError where
  | parse (text : String)
  | link (text : String)
  | tool (executable : String) (refusal : Files.Refusal)
  | output (fault : Bytecode.Fault)
deriving DecidableEq, Repr

def CompileError.message : CompileError → String
  | .parse text => "parse failed:\n" ++ text
  | .link text => "link failed:\n" ++ text
  | .tool executable refusal =>
    "failed to run shader compiler '" ++ executable ++ "': " ++ refusal.message
  | .output fault => "compiler produced invalid SPIR-V: " ++ fault.message

structure Compilation where
  source : String
  stage : Stage
  origin : Path
deriving DecidableEq, Repr

abbrev Compiler := Compilation → Except CompileError (List UInt32)

namespace ToolCompiler

def defaultExecutable : String := "glslc"

def includeArguments (origin : Path) : List String :=
  match origin.parent with
  | none => []
  | some directory => if directory.bytes = [] then [] else ["-I" ++ directory.display]

def arguments (stage : Stage) (origin : Path) : List String :=
  ["-fshader-stage=" ++ stage.extension, "--target-env=vulkan1.0", "-std=450",
    "-fauto-bind-uniforms", "-fauto-map-locations"] ++
  includeArguments origin ++ ["-o", "-", "-"]

/-- Linking problems are told by their text; all others are parse errors. -/
def classify (text : String) : CompileError :=
  if Text.contains text "linking" || Text.contains text "Linking" then .link text
  else .parse text

def inputName : String := "<stdin>"

/-- The tool names its input by a placeholder; the shader's path stands for it. -/
def nameOrigin (text : String) (origin : Path) : String :=
  Text.replaceAll inputName origin.display text

def outcome (t : Tools.Answer) (origin : Path) : Except CompileError (List UInt32) :=
  if t.succeeds then
    match Bytecode.wordsOfBytes t.stdout with
    | .ok words => .ok words
    | .error fault => .error (.output fault)
  else .error (classify (nameOrigin (Utf8.decodeTextLossy t.stderr) origin))

def launch (w : Tools.Workshop) (executable : String) (c : Compilation) :
    Except Files.Refusal Tools.Answer :=
  (w.launch executable (arguments c.stage c.origin)).map fun tool => tool (Utf8.encodeText c.source)

def compiler (w : Tools.Workshop) (executable : String) : Compiler := fun c =>
  match launch w executable c with
  | .error refusal => .error (.tool executable refusal)
  | .ok answer => outcome answer c.origin

end ToolCompiler

namespace ScriptedCompiler

def blankWords (text : List Char) : List (List Char) :=
  (text.splitBy fun a b => Text.isBlank a == Text.isBlank b).filter fun w => !w.all Text.isBlank

def listedWords (text : List Char) : List UInt32 :=
  ((blankWords text).filterMap Text.readDecimal?).map UInt32.ofNat

def wordsMark : List Char := "#words ".toList

def compiler (standard : List UInt32) : Compiler := fun c =>
  let place := c.origin.display ++ ":" ++ c.stage.extension
  let asks := Text.contains c.source
  if asks "#error" then .error (.parse (place ++ ": bad parse"))
  else if asks "#link" then .error (.link (place ++ ": bad link"))
  else if asks "#badoutput" then
    match Bytecode.wordsOfBytes (Utf8.encodeText c.source) with
    | .ok words => .ok words
    | .error fault => .error (.output fault)
  else if asks "#empty" then .ok []
  else if wordsMark.isPrefixOf c.source.toList then
    .ok (listedWords (c.source.toList.drop wordsMark.length))
  else .ok standard

end ScriptedCompiler
end SceneGpu
