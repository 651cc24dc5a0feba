import SceneGpu.Proofs.Text.Decoding
import SceneGpu.Proofs.Text.Search
import SceneGpu.Shader.Compiler
/-!
How a failed run of the compiler's tool is told. The path of the shader is put into the report before
the report is searched for a word of linking, so a path that has such a word, or can complete one,
makes a linking problem of what the tool reported as something else.
-/
namespace SceneGpu

inductive CompileError.Kind where
  | parse
  | link
  | tool
  | output
deriving DecidableEq, Repr

def CompileError.kind : CompileError → Kind
  | .parse _ => .parse
  | .link _ => .link
  | .tool _ _ => .tool
  | .output _ => .output

namespace ToolCompiler

open Text (Completes Replaced)

def linkWords : List (List Char) := ["linking".toList, "Linking".toList]

def Linked (text : String) : Prop := ∃ word ∈ linkWords, word <:+: text.toList

instance (text : String) : Decidable (Linked text) :=
  inferInstanceAs (Decidable (∃ word ∈ linkWords, word <:+: text.toList))

def toldKind (text : String) : CompileError.Kind := if Linked text then .link else .parse

/-- The path completes no word of linking, whatever report it is put into. -/
def Neutral (origin : Path) : Prop := ∀ word ∈ linkWords, ¬ Completes word origin.display.toList

instance (origin : Path) : Decidable (Neutral origin) :=
  inferInstanceAs (Decidable (∀ word ∈ linkWords, ¬ Completes word origin.display.toList))

theorem classify_kind (text : String) : (classify text).kind = toldKind text := by
  have linked : (Text.contains text "linking" || Text.contains text "Linking") = true ↔
      Linked text := by
    rw [Bool.or_eq_true, Text.contains_iff, Text.contains_iff]
    simp [Linked, linkWords]
  unfold classify toldKind
  by_cases link : Linked text
  · rw [if_pos link, if_pos (linked.mpr link)]
    rfl
  · rw [if_neg link, if_neg (mt linked.mp link)]
    rfl

section Naming

variable {text : String} {origin : Path}

theorem replaced_nameOrigin (text : String) (origin : Path) :
    Replaced inputName.toList origin.display.toList text.toList (nameOrigin text origin).toList := by
  unfold nameOrigin Text.replaceAll
  rw [String.toList_ofList]
  exact Text.replaced_replaceFrom (by decide) text.toList

theorem inputName_marked : inputName.toList = '<' :: ("stdin".toList ++ ['>']) := by decide

theorem linkWord_plain : ∀ word ∈ linkWords,
    '<' ∉ word ∧ '>' ∉ word ∧ ¬ word <:+: "stdin".toList ∧ word.length = 7 := by
  decide

theorem Linked.nameOrigin (linked : Linked text) (origin : Path) :
    Linked (nameOrigin text origin) := by
  obtain ⟨word, mem, found⟩ := linked
  obtain ⟨opens, closes, apart, _⟩ := linkWord_plain word mem
  have replaced := replaced_nameOrigin text origin
  rw [inputName_marked] at replaced
  exact ⟨word, mem, Text.infix_replaced opens closes apart replaced found⟩

theorem Neutral.linked_nameOrigin (neutral : Neutral origin) :
    Linked (ToolCompiler.nameOrigin text origin) ↔ Linked text := by
  constructor
  · rintro ⟨word, mem, found⟩
    have replaced := replaced_nameOrigin text origin
    exact ⟨word, mem, Text.infix_of_replaced (neutral word mem) replaced found⟩
  · intro linked
    exact linked.nameOrigin origin

theorem Neutral.toldKind (neutral : Neutral origin) :
    toldKind (ToolCompiler.nameOrigin text origin) = ToolCompiler.toldKind text := by
  unfold ToolCompiler.toldKind
  exact if_congr neutral.linked_nameOrigin rfl rfl

theorem nameOrigin_unnamed (unnamed : ¬ inputName.toList <:+: text.toList) :
    nameOrigin text origin = text :=
  String.toList_inj.mp ((replaced_nameOrigin text origin).unnamed unnamed)

theorem replaced_front {new u s t : List Char} (plain : '<' ∉ u)
    (more : Replaced inputName.toList new s t) : Replaced inputName.toList new (u ++ s) (u ++ t) := by
  rw [inputName_marked] at more ⊢
  exact more.front plain

theorem nameOrigin_between {u v : List Char} (plain : '<' ∉ u) (plain' : '<' ∉ v) :
    (nameOrigin (String.ofList (u ++ (inputName.toList ++ v))) origin).toList =
      u ++ (origin.display.toList ++ v) := by
  have rest : Replaced inputName.toList origin.display.toList v v := by
    have alone := replaced_front plain' (.nil : Replaced inputName.toList origin.display.toList [] [])
    rwa [List.append_nil] at alone
  have whole : Replaced inputName.toList origin.display.toList (u ++ (inputName.toList ++ v))
      (u ++ (origin.display.toList ++ v)) :=
    replaced_front plain rest.hit
  unfold nameOrigin Text.replaceAll
  rw [String.toList_ofList, String.toList_ofList, whole.eq (by decide)]

theorem not_linked_between {u v : List Char} (short : u.length < 7) (short' : v.length < 7) :
    ¬ Linked (String.ofList (u ++ (inputName.toList ++ v))) := by
  rintro ⟨word, mem, found⟩
  obtain ⟨opens, closes, apart, length⟩ := linkWord_plain word mem
  rw [String.toList_ofList, inputName_marked, List.cons_append, List.append_assoc,
    List.singleton_append] at found
  rcases Text.infix_cut opens found with inside | behind
  · have le := inside.length_le
    omega
  rcases Text.infix_cut closes behind with inside | inside
  · exact apart inside
  · have le := inside.length_le
    omega

theorem exists_report (completes : ¬ Neutral origin) :
    ∃ report : String, ¬ Linked report ∧ Linked (nameOrigin report origin) := by
  unfold Neutral at completes
  push Not at completes
  obtain ⟨word, mem, completes⟩ := completes
  obtain ⟨opens, _, _, length⟩ := linkWord_plain word mem
  obtain ⟨u, v, ⟨short, short', fromWord, fromWord'⟩, found⟩ := completes.between (by omega)
  rw [length] at short short'
  refine ⟨_, not_linked_between short short', word, mem, ?_⟩
  rw [nameOrigin_between (fun bad => opens (fromWord bad)) fun bad => opens (fromWord' bad)]
  exact found

end Naming

def failureOf : Except CompileError (List UInt32) → Option CompileError.Kind
  | .ok _ => none
  | .error e => some e.kind

def reportOf (t : Tools.Answer) : String := Utf8.decodeTextLossy t.stderr

theorem failureOf_outcome {t : Tools.Answer} (failed : t.succeeds = false) (origin : Path) :
    failureOf (outcome t origin) = some (toldKind (nameOrigin (reportOf t) origin)) := by
  unfold outcome
  rw [failed, if_neg Bool.false_ne_true, failureOf, classify_kind]
  rfl

structure FailedRun where
  shop : Tools.Workshop
  executable : String
  request : Compilation
  answer : Tools.Answer
  launched : launch shop executable request = .ok answer
  failed : answer.succeeds = false

namespace FailedRun

def report (r : FailedRun) : String := reportOf r.answer

def failure (r : FailedRun) : Option CompileError.Kind :=
  failureOf (compiler r.shop r.executable r.request)

theorem failure_eq (r : FailedRun) :
    r.failure = some (toldKind (nameOrigin r.report r.request.origin)) := by
  unfold failure compiler
  rw [r.launched]
  exact failureOf_outcome r.failed r.request.origin

/-- The path is of no account: the report has a word of linking, or it does not name the input, or the
path completes no such word. -/
inductive Settled (r : FailedRun) : Prop
  | linked (linked : Linked r.report)
  | unnamed (unnamed : ¬ inputName.toList <:+: r.report.toList)
  | neutral (neutral : Neutral r.request.origin)

theorem Settled.failure {r : FailedRun} (settled : r.Settled) :
    r.failure = some (toldKind r.report) := by
  rw [failure_eq]
  cases settled with
  | linked linked => rw [toldKind, toldKind, if_pos (linked.nameOrigin _), if_pos linked]
  | unnamed unnamed => rw [nameOrigin_unnamed unnamed]
  | neutral neutral => rw [neutral.toldKind]

end FailedRun

theorem neutral_iff {origin : Path} : Neutral origin ↔ ∀ t : Tools.Answer, t.succeeds = false →
    failureOf (outcome t origin) = some (toldKind (reportOf t)) := by
  constructor
  · intro neutral t failed
    rw [failureOf_outcome failed, neutral.toldKind]
  · intro told
    by_contra completes
    obtain ⟨report, plain, linked⟩ := exists_report completes
    let t : Tools.Answer := ⟨1, [], Utf8.encodeText report⟩
    have read : reportOf t = report := by
      unfold reportOf Utf8.decodeTextLossy Utf8.decodeLossy
      rw [show t.stderr = Utf8.encode report.toList from rfl, Utf8.units_encode, List.map_map,
        show ((fun u : Option Char => u.getD (Char.ofNat 0xFFFD)) ∘ some) = id from rfl, List.map_id,
        String.ofList_toList]
    have kind := told t rfl
    rw [failureOf_outcome rfl, read, toldKind, toldKind, if_pos linked, if_neg plain] at kind
    cases kind

/-- Runs with one report fail in one way where their paths are of no account. A path is so for every
report exactly if it completes no word of linking. -/
theorem failures_agree {r r' : FailedRun} (same : r.report = r'.report) :
    (r.Settled → r'.Settled → r.failure = r'.failure ∧ r.failure = some (toldKind r.report)) ∧
    (Neutral r.request.origin ↔ ∀ t : Tools.Answer, t.succeeds = false →
      failureOf (outcome t r.request.origin) = some (toldKind (reportOf t))) := by
  refine ⟨?_, neutral_iff⟩
  intro settled settled'
  have told := settled.failure
  refine ⟨?_, told⟩
  rw [told, settled'.failure, same]

/- A tool that finds a fault in any source. -/
namespace Faulty

def answer : Tools.Answer :=
  ⟨1, [], Utf8.encodeText "<stdin>:3: error: 'foo' : undeclared identifier\n"⟩

def place : Files.Place := [Utf8.encodeText "glslc"]

def shop : Tools.Workshop where
  tree := ⟨fun p => if p = place then some (.file [] 0 true) else some (.directory 0), [], 0⟩
  tool := fun _ => some fun _ => answer
  searchPath := []

def request (origin : String) : Compilation := ⟨"void main() {}", .vertex, Path.ofText origin⟩

def run (origin : String)
    (launched : launch shop "./glslc" (request origin) = .ok answer) : FailedRun :=
  ⟨shop, "./glslc", request origin, answer, launched, rfl⟩

def near : FailedRun := run "a.vert" (by decide +kernel)

def far : FailedRun := run "shaders/b.vert" (by decide +kernel)

def below : FailedRun := run "linking/a.vert" (by decide +kernel)

end Faulty

open Faulty in
theorem failures_agree_elsewhere :
    near.report = far.report ∧ near.Settled ∧ far.Settled ∧ near.failure = far.failure ∧
      near.failure = some .parse ∧ Neutral near.request.origin ∧ ¬ Neutral below.request.origin ∧
      ¬ ∀ t : Tools.Answer, t.succeeds = false →
        failureOf (outcome t below.request.origin) = some (toldKind (reportOf t)) := by
  have neutral : Neutral near.request.origin := by decide +kernel
  have settled' : far.Settled := .neutral (by decide +kernel)
  have told : toldKind near.report = .parse := by decide +kernel
  have one : near.report = far.report := rfl
  obtain ⟨agree, -⟩ := failures_agree one
  obtain ⟨same, failure⟩ := agree (.neutral neutral) settled'
  rw [told] at failure
  have completes : ¬ Neutral below.request.origin := by decide +kernel
  have other : below.report = near.report := rfl
  obtain ⟨-, exactly⟩ := failures_agree other
  exact ⟨one, .neutral neutral, settled', same, failure, neutral, completes, mt exactly.mpr completes⟩

open Faulty in
/-- A fault of a shader in a directory that is called `linking` is told as one of linking. -/
theorem failure_of_directory :
    ¬ ∀ r r' : FailedRun, r.report = r'.report → r.failure = r'.failure := by
  intro agree
  have same := agree near below rfl
  have parse : near.failure = some .parse := by decide +kernel
  have link : below.failure = some .link := by decide +kernel
  rw [parse, link] at same
  cases same

end ToolCompiler
end SceneGpu
