import SceneGpu.Glsl.Layout
import SceneGpu.Report.Journal
import SceneGpu.Shader.Compiler
/-!
The way back from bytecode to desktop shader source: an emitter writes the source, and its layout
clauses are adjusted.
-/
namespace SceneGpu

abbrev Emitter := List UInt32 → UInt32 → Except Failure String

structure DesktopShader where
  stage : Stage
  source : String
  specs : Specs
deriving DecidableEq, Repr

def clauseRemark (c : Glsl.Clause) : Record :=
  let text := String.ofList c.text
  let say := fun level => Record.remark level .clauses
  match c.fate with
  | .keep => say .trace ("Keeping " ++ text)
  | .remove =>
    say .debug ("Dropping " ++ text ++ " from " ++ " ".intercalate (c.head.map String.ofList))
  | .replace => say .debug ("Replacing " ++ text ++ " with " ++ Glsl.sharedLayout)

def crossCompile (m : ShaderModule) (emit : Emitter) (version : UInt32) : Logged DesktopShader :=
  let path := m.path.display
  if !m.isUsable then
    ⟨[.error .shader ("Refusing to cross-compile " ++ path ++ ": no bytecode")],
      .error (.plain ("shader " ++ path ++ " has no bytecode"))⟩
  else do
    let emitted ← (Logged.ofResult (emit m.bytecode version)).within
      ("Failed to emit GLSL for " ++ path)
    Logged.say [.remark .debug .emission
      ("Cross-compiled " ++ path ++ s!" to GLSL {version} ({emitted.utf8ByteSize} bytes)")]
    Logged.say ((Glsl.clauses emitted.toList).map clauseRemark)
    return ⟨m.stage, Glsl.stripLayoutText emitted, m.specs⟩

namespace ToolEmitter

def defaultExecutable : String := "spirv-cross"

/-- The arguments behind the input file. -/
def options (version : UInt32) : List String := ["--version", toString version, "--no-es"]

def inputFile (words : List UInt32) : List UInt8 := Bytecode.encodeLE words

def outcome (executable : String) (t : Tools.Answer) : Except Failure String :=
  if t.succeeds then
    match Utf8.firstBreak? 0 t.stdout with
    | none => .ok (Utf8.decodeTextLossy t.stdout)
    | some broken => .error ⟨["spirv-cross emitted invalid UTF-8"], .notText broken⟩
  else .error (.plain (executable ++ " failed: " ++ Utf8.decodeTextLossy t.stderr))

def emitter (w : Tools.Workshop) (executable : String) : Emitter := fun words version =>
  match w.launch executable (options version) with
  | .error refusal => .error ⟨["Failed to run '" ++ executable ++ "'"], .files refusal⟩
  | .ok tool => outcome executable (tool (inputFile words))

end ToolEmitter
end SceneGpu
