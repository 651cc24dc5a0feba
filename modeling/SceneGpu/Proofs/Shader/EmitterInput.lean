import SceneGpu.Proofs.Bytecode.ByteOrder
import SceneGpu.Proofs.Shader.Built
import SceneGpu.Shader.CrossCompile
/-!
The file that the emitter finds its words in. A module's words were read from a bytecode file or from
the compiler's output, in whichever byte order, so the emitter's file can be read back.
-/
namespace SceneGpu

open Bytecode (wordsOfBytes wordsOfBytes_ok_iff magic ByteOrder Unreadable)

def Compiler.Reads (compile : Compiler) : Prop :=
  ∀ c words, compile c = .ok words → ∃ bytes, wordsOfBytes bytes = .ok words

theorem ToolCompiler.compiler_reads (shop : Tools.Workshop) (executable : String) :
    (compiler shop executable).Reads := by
  intro c words compiled
  unfold compiler at compiled
  split at compiled
  · cases compiled
  · rename_i answer _
    unfold outcome at compiled
    split at compiled
    · split at compiled
      · rename_i read
        cases compiled
        exact ⟨answer.stdout, read⟩
      · cases compiled
    · cases compiled

theorem ToolEmitter.inputFile_reads {bytes : List UInt8} {words : List UInt32}
    (read : wordsOfBytes bytes = .ok words) : wordsOfBytes (inputFile words) = .ok words :=
  Bytecode.wordsOfBytes_encode .little (wordsOfBytes_ok_iff.mp read).1

namespace Library

variable {s : Services} {t : Files.Tree}

/-- There are no words if a source does not compile; all others were read. -/
theorem words?_reads {stage : Stage} {a : Artifact} {words : List UInt32}
    (reads : s.compile.Reads) (built : words? s t stage a = some words) (filled : words ≠ []) :
    ∃ bytes, wordsOfBytes bytes = .ok words := by
  cases a with
  | bytecode path =>
    simp only [words?, wordsOfFile] at built
    cases file : t.read path with
    | error r => simp [file, Except.toOption] at built
    | ok bytes =>
      cases read : wordsOfBytes bytes with
      | error fault => simp [file, read, Except.toOption] at built
      | ok found =>
        obtain rfl : found = words := by simpa [file, read, Except.toOption] using built
        exact ⟨bytes, read⟩
  | source path =>
    obtain ⟨source, _, rfl⟩ := Option.map_eq_some_iff.mp built
    cases compiled : s.compile ⟨source, stage, path⟩ with
    | error e => simp [compiled, Except.toOption] at filled
    | ok found => exact reads _ _ compiled

theorem build_reads {requested : Path} {a : Artifact} {m : ShaderModule} (reads : s.compile.Reads)
    (built : (build s t requested a).outcome.result = .ok m) (usable : m.isUsable) :
    ∃ bytes, wordsOfBytes bytes = .ok m.bytecode := by
  have holds := Logged.value?_eq_some.mpr built
  rw [build_value?, module?, Option.bind_eq_some_iff] at holds
  obtain ⟨words, found, reflected⟩ := holds
  obtain ⟨r, _, rfl⟩ := Option.map_eq_some_iff.mp reflected
  exact words?_reads reads found (by simpa [ShaderModule.isUsable] using usable)

end Library

structure ReadsBack (bytes : List UInt8) (words : List UInt32) : Prop where
  readable : (∃ read, wordsOfBytes bytes = .ok read) ↔
    0 < bytes.length ∧ 4 ∣ bytes.length ∧ ∃ order : ByteOrder, order.Marks bytes
  refused : ∀ fault, wordsOfBytes bytes = .error fault ↔ Unreadable bytes fault
  headed : wordsOfBytes bytes = .ok words → words.head? = some magic
  restored : wordsOfBytes bytes = .ok words → ∀ order : ByteOrder, order.Marks bytes →
    order.encode words = bytes
  written : words.head? = some magic → ∀ order : ByteOrder,
    wordsOfBytes (order.encode words) = .ok words
  emitted : ∀ m : ShaderModule, m.bytecode = words → wordsOfBytes bytes = .ok words →
    wordsOfBytes (ToolEmitter.inputFile m.bytecode) = .ok m.bytecode
  built : ∀ shop executable introspect t requested artifact m,
    (Library.build ⟨ToolCompiler.compiler shop executable, introspect⟩ t requested
      artifact).outcome.result = .ok m → m.isUsable →
    wordsOfBytes (ToolEmitter.inputFile m.bytecode) = .ok m.bytecode
  handed : ∀ shop executable version tool,
    shop.launch executable (ToolEmitter.options version) = .ok tool →
    ToolEmitter.emitter shop executable words version =
      ToolEmitter.outcome executable (tool (ToolEmitter.inputFile words))

theorem words_read_back (bytes : List UInt8) (words : List UInt32) : ReadsBack bytes words := by
  refine ⟨Bytecode.readable_iff, fun _ => Bytecode.wordsOfBytes_error_iff,
    fun read => (wordsOfBytes_ok_iff.mp read).1, fun read _ => Bytecode.encode_of_marks read,
    fun headed order => Bytecode.wordsOfBytes_encode order headed, ?_, ?_, ?_⟩
  · rintro m rfl read
    exact ToolEmitter.inputFile_reads read
  · intro shop executable introspect t requested artifact m built usable
    obtain ⟨file, read⟩ := Library.build_reads (ToolCompiler.compiler_reads shop executable) built usable
    exact ToolEmitter.inputFile_reads read
  · intro shop executable version tool launched
    rw [ToolEmitter.emitter, launched]

/- A tool that tells how many words it reads from its file. -/
namespace WordCounter

def tool : Tools.Tool := fun file =>
  match wordsOfBytes file with
  | .ok words => ⟨0, Utf8.encodeText (toString words.length), []⟩
  | .error _ => ⟨1, [], []⟩

def place : Files.Place := [Utf8.encodeText "count"]

def shop : Tools.Workshop where
  tree := ⟨fun p => if p = place then some (.file [] 0 true) else some (.directory 0), [], 0⟩
  tool := fun _ => some tool
  searchPath := []

end WordCounter

open WordCounter in
/-- A header in the other byte order, which the emitter's tool gets with the first byte first. -/
theorem words_read_back_swapped :
    wordsOfBytes [7, 35, 2, 3, 0, 1, 0, 0] = .ok [magic, 65536] ∧
      ByteOrder.big.encode [magic, 65536] = [7, 35, 2, 3, 0, 1, 0, 0] ∧
      ToolEmitter.inputFile [magic, 65536] = [3, 2, 35, 7, 0, 0, 1, 0] ∧
      wordsOfBytes [3, 2, 35, 7, 0, 0, 1, 0] = .ok [magic, 65536] ∧
      ToolEmitter.emitter shop "./count" [magic, 65536] 410 = .ok "2" := by
  have read : wordsOfBytes [7, 35, 2, 3, 0, 1, 0, 0] = .ok [magic, 65536] := by decide
  have back := words_read_back [7, 35, 2, 3, 0, 1, 0, 0] [magic, 65536]
  have file : wordsOfBytes (ToolEmitter.inputFile [magic, 65536]) = .ok [magic, 65536] :=
    back.emitted ⟨.vertex, ⟨[]⟩, [magic, 65536], Specs.empty, []⟩ rfl read
  have launched : shop.launch "./count" (ToolEmitter.options 410) = .ok tool := by rfl
  refine ⟨read, back.restored read .big (by decide), by decide, file, ?_⟩
  rw [back.handed _ _ _ _ launched, tool, file]
  decide +kernel

end SceneGpu
