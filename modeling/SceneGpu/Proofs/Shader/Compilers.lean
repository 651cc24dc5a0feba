import SceneGpu.Proofs.Path.Agreement
import SceneGpu.Proofs.Text.Utf8
import SceneGpu.Shader.Compiler
/-!
Compilers and the spelling of an origin. What a compiler makes of a source must not depend on how the
path of the source is written, and for the compilers at hand it does not.
-/
namespace SceneGpu

/-- Agreeing origins are one origin: the words that come out are the same for both. -/
def Compiler.Respects (compile : Compiler) : Prop :=
  ∀ source stage (p q : Path), p.agrees q = true →
    (compile ⟨source, stage, p⟩).toOption = (compile ⟨source, stage, q⟩).toOption

theorem ScriptedCompiler.respects (standard : List UInt32) :
    (ScriptedCompiler.compiler standard).Respects := by
  intro source stage p q _
  simp only [ScriptedCompiler.compiler]
  split_ifs
  · rfl
  · rfl
  · cases Bytecode.wordsOfBytes (Utf8.encodeText source) <;> rfl
  · rfl
  · rfl
  · rfl

namespace Path

def hasNul (s : String) : Bool := s.toList.contains '\x00'

def shownNul (segment : List UInt8) : Bool := (Utf8.decodeLossy segment).contains '\x00'

theorem shownNul_append_slash (front back : List UInt8) :
    shownNul (front ++ slash :: back) = (shownNul front || shownNul back) := by
  have cut := Utf8.decodeLossy_append (show slash < 0x80 by decide) front back
  have shown : Utf8.decodeLossy (slash :: back) = '/' :: Utf8.decodeLossy back := by
    simp [Utf8.decodeLossy, Utf8.units, Utf8.unit, Utf8.lead, Utf8.follow, slash]
  unfold shownNul
  rw [cut, shown]
  simp

theorem shownNul_split (bytes : List UInt8) : shownNul bytes = (split bytes).any shownNul := by
  induction size : bytes.length using Nat.strongRecOn generalizing bytes with
  | ind size ih =>
    by_cases cut : slash ∈ bytes
    · obtain ⟨front, back, rfl⟩ := List.mem_iff_append.mp cut
      simp only [List.length_append, List.length_cons] at size
      rw [shownNul_append_slash, split_append_slash, List.any_append,
        ih front.length (by omega) front rfl, ih back.length (by omega) back rfl]
    · rw [split_plain cut]
      simp

theorem shownNul_idle {segment : List UInt8} (idle : isIdle segment = true) :
    shownNul segment = false := by
  have cases : segment = [] ∨ segment = [dot] := by simpa [isIdle] using idle
  rcases cases with rfl | rfl
  · simp [shownNul, Utf8.decodeLossy, Utf8.units]
  · simp [shownNul, Utf8.decodeLossy, Utf8.units, Utf8.unit, Utf8.lead, Utf8.follow, dot]

theorem any_busy (segments : List (List UInt8)) :
    (busy segments).any shownNul = segments.any shownNul := by
  induction segments with
  | nil => rfl
  | cons s rest ih =>
    by_cases idle : isIdle s = true
    · rw [busy_cons_idle idle, ih, List.any_cons, shownNul_idle idle]
      rfl
    · have keep : busy (s :: rest) = s :: busy rest := by simp [busy, idle]
      rw [keep, List.any_cons, List.any_cons, ih]

theorem hasNul_display (p : Path) : hasNul p.display = p.steps.any shownNul := by
  rw [steps_eq_busy, any_busy, ← shownNul_split]
  simp [hasNul, display, Utf8.decodeTextLossy, shownNul]

theorem parent_of_still {p : Path} (still : p.steps = []) :
    p.parent = none ∨ p.parent = some ⟨[]⟩ := by
  unfold parent
  split
  · split
    · exact .inr rfl
    · exact .inl rfl
  · rename_i moves
    exact absurd still moves

end Path

namespace ToolCompiler

open SceneGpu.Path (hasNul shownNul)

theorem includeArguments_hasNul (p : Path) :
    (includeArguments p).any hasNul = p.steps.dropLast.any shownNul := by
  unfold includeArguments
  by_cases still : p.steps = []
  · rw [still]
    rcases Path.parent_of_still still with none | empty
    · rw [none]
      rfl
    · rw [empty]
      rfl
  · obtain ⟨d, parent, _, steps⟩ := Path.parent_head_steps still
    rw [parent, ← steps, ← Path.hasNul_display]
    by_cases empty : d.bytes = []
    · simp [empty, hasNul, Path.display, Utf8.decodeTextLossy, Utf8.decodeLossy, Utf8.units]
    · simp [empty, hasNul]

theorem arguments_hasNul {p q : Path} (agree : p.agrees q = true) (stage : Stage) :
    (arguments stage p).any hasNul = (arguments stage q).any hasNul := by
  have steps := (Path.agrees_iff.mp agree).2
  simp only [arguments, List.any_append, includeArguments_hasNul, steps]

theorem launch_congr (w : Tools.Workshop) (executable : String) {a b : List String}
    (alike : a.any hasNul = b.any hasNul) : w.launch executable a = w.launch executable b := by
  have all : ((executable :: a).any fun s => s.toList.contains '\x00') =
      ((executable :: b).any fun s => s.toList.contains '\x00') := by
    rw [List.any_cons, List.any_cons]
    exact congrArg _ alike
  unfold Tools.Workshop.launch
  rw [all]

theorem respects (w : Tools.Workshop) (executable : String) : (compiler w executable).Respects := by
  intro source stage p q agree
  have same := launch_congr w executable (arguments_hasNul agree stage)
  simp only [compiler, launch, same]
  cases w.launch executable (arguments stage q) with
  | error refusal => rfl
  | ok tool =>
    simp only [Except.map, outcome]
    split
    · cases Bytecode.wordsOfBytes (tool (Utf8.encodeText source)).stdout <;> rfl
    · simp only [Except.toOption]

end ToolCompiler
end SceneGpu
