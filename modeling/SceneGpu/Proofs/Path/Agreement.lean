import Mathlib.Data.List.Induction
import SceneGpu.Proofs.Path.Segments
import SceneGpu.Shader.Module
/-!
Paths that agree: one head, the same steps. Parents, sources and stage extensions of such paths agree
as well, so a path may be written in another way without becoming another shader.
-/
namespace SceneGpu.Path

theorem agrees_iff {p q : Path} : p.agrees q = true ↔ p.head = q.head ∧ p.steps = q.steps := by
  simp [agrees]

theorem agrees_refl (p : Path) : p.agrees p = true := agrees_iff.mpr ⟨rfl, rfl⟩

/-- What agreeing paths share. -/
def meaning (p : Path) : List UInt8 × List (List UInt8) := (p.head, p.steps)

theorem agrees_iff_meaning {p q : Path} : p.agrees q = true ↔ p.meaning = q.meaning := by
  rw [agrees_iff, meaning, meaning, Prod.mk.injEq]

theorem isAbsolute_iff_head {p : Path} : p.isAbsolute = true ↔ p.head = [slash] := by
  unfold head
  split
  · simp_all
  · split <;> simp_all [slash, dot]

theorem isAbsolute_iff_split {p : Path} :
    p.isAbsolute = true ↔ ∃ t rest, split p.bytes = [] :: t :: rest := by
  cases bytes : p.bytes with
  | nil => simp [isAbsolute, bytes, split]
  | cons b rest =>
    by_cases sep : b = slash
    · obtain ⟨t, ss, eq⟩ := List.exists_cons_of_ne_nil (split_ne_nil rest)
      simp [isAbsolute, bytes, sep, split, eq]
    · obtain ⟨s, ss, -, eq⟩ := split_cons_of_ne sep rest
      simp [isAbsolute, bytes, sep, eq]

theorem head_of_split_dot {p : Path} {ss : List (List UInt8)} (eq : split p.bytes = [dot] :: ss) :
    p.head = [dot] := by
  have here : p.startsHere := by simp [startsHere, eq]
  have relative : ¬ p.isAbsolute := by
    rw [isAbsolute_iff_split]
    rintro ⟨t, rest, other⟩
    simp [eq] at other
  simp [head, here, relative]

theorem bytes_eq_nil_iff {p : Path} : p.bytes = [] ↔ p.head = [] ∧ p.steps = [] := by
  constructor
  · intro empty
    simp [steps_eq_busy, head, isAbsolute, startsHere, empty, split, busy, isIdle]
  · rintro ⟨bare, still⟩
    cases bytes : p.bytes with
    | nil => rfl
    | cons b rest =>
      rw [steps_eq_busy, bytes] at still
      have relative : b ≠ slash := by
        rintro rfl
        simp [head, isAbsolute, bytes] at bare
      obtain ⟨s, ss, -, eq⟩ := split_cons_of_ne relative rest
      rw [eq] at still
      by_cases here : b = dot ∧ s = []
      · have starts : p.head = [dot] := head_of_split_dot (by rw [bytes, eq, here.1, here.2])
        simp [starts] at bare
      · simp [busy, isIdle, here] at still

section Parent

theorem dropIdleEnd_initial (segments : List (List UInt8)) : dropIdleEnd segments <+: segments := by
  have suffix := List.dropWhile_suffix (l := segments.reverse) isIdle
  simpa [dropIdleEnd] using List.reverse_prefix.mpr suffix

theorem busy_dropIdleEnd (segments : List (List UInt8)) :
    busy (dropIdleEnd segments) = busy segments := by
  induction segments using List.reverseRecOn with
  | nil => rfl
  | append_singleton front s ih =>
    by_cases idle : isIdle s
    · have cut : dropIdleEnd (front ++ [s]) = dropIdleEnd front := by simp [dropIdleEnd, idle]
      rw [cut, ih, busy_append]
      simp [busy, idle]
    · simp [dropIdleEnd, idle]

theorem busy_dropLast_dropIdleEnd (segments : List (List UInt8)) :
    busy (dropIdleEnd segments).dropLast = (busy segments).dropLast := by
  induction segments using List.reverseRecOn with
  | nil => rfl
  | append_singleton front s ih =>
    by_cases idle : isIdle s
    · have cut : dropIdleEnd (front ++ [s]) = dropIdleEnd front := by simp [dropIdleEnd, idle]
      rw [cut, ih, busy_append]
      simp [busy, idle]
    · have keep : dropIdleEnd (front ++ [s]) = front ++ [s] := by simp [dropIdleEnd, idle]
      rw [keep, busy_append]
      simp [busy, idle]

theorem append_unsplit (front s : List UInt8) (rest : List (List UInt8)) :
    front ++ unsplit (s :: rest) = unsplit ((front ++ s) :: rest) := by
  cases rest with
  | nil => simp [unsplit]
  | cons t rest => simp [unsplit_cons_cons]

theorem cut_head_steps {p : Path} {segments : List (List UInt8)} (first : segments <+: p.segments) :
    Path.head ⟨p.head ++ unsplit segments⟩ = p.head ∧
      Path.steps ⟨p.head ++ unsplit segments⟩ = busy segments := by
  have plain : ∀ s ∈ segments, slash ∉ s := by
    intro s mem
    exact slash_notMem_of_mem_split (first.subset mem)
  rw [steps_eq_busy]
  by_cases absolute : p.isAbsolute
  · have headEq := isAbsolute_iff_head.mp absolute
    rw [headEq]
    refine ⟨isAbsolute_iff_head.mp rfl, ?_⟩
    rw [← busy_split_unsplit plain]
    simp [split, busy_cons_idle, isIdle]
  by_cases here : p.startsHere
  · obtain ⟨rest, ss, bytes, eq, -⟩ := split_of_startsHere here
    have headEq : p.head = [dot] := by simp [head, absolute, here]
    rw [headEq]
    cases segments with
    | nil => decide
    | cons s more =>
      obtain ⟨rfl, -⟩ : s = [] ∧ more <+: ss := by
        simpa [Path.segments, headEq, bytes, eq] using first
      have cut : split ([dot] ++ unsplit ([] :: more)) = [dot] :: more := by
        rw [append_unsplit, split_unsplit (by simp)]
        · rfl
        · intro r mem
          rcases List.mem_cons.mp mem with rfl | mem
          · decide
          · exact plain r (by simp [mem])
      refine ⟨head_of_split_dot cut, ?_⟩
      simp only [cut]
      simp [busy, isIdle]
  · have headEq : p.head = [] := by simp [head, absolute, here]
    rw [headEq]
    cases segments with
    | nil => decide
    | cons s more =>
      have cut : split (unsplit (s :: more)) = s :: more := split_unsplit (by simp) plain
      obtain ⟨after, whole⟩ : s :: more <+: split p.bytes := by
        simpa [Path.segments, headEq] using first
      refine ⟨?_, by simp [cut]⟩
      have notHere : (⟨unsplit (s :: more)⟩ : Path).startsHere = false := by
        simpa [startsHere, cut, ← whole] using here
      have relative : (⟨unsplit (s :: more)⟩ : Path).isAbsolute = false := by
        rw [Bool.eq_false_iff]
        intro slashed
        obtain ⟨t, rest, eq⟩ := isAbsolute_iff_split.mp slashed
        rw [cut] at eq
        exact absolute (isAbsolute_iff_split.mpr ⟨t, rest ++ after, by simp [← whole, eq]⟩)
      simp [head, notHere, relative]

theorem parent_head_steps {p : Path} (moves : p.steps ≠ []) :
    ∃ d, p.parent = some d ∧ d.head = p.head ∧ d.steps = p.steps.dropLast := by
  have first : dropIdleEnd (dropIdleEnd p.segments).dropLast <+: p.segments :=
    (dropIdleEnd_initial _).trans ((List.dropLast_prefix _).trans (dropIdleEnd_initial _))
  obtain ⟨headEq, stepsEq⟩ := cut_head_steps first
  refine ⟨_, ?_, headEq, ?_⟩
  · unfold parent
    split
    · contradiction
    · rfl
  · rw [stepsEq, busy_dropIdleEnd, busy_dropLast_dropIdleEnd]
    rfl

end Parent
section Name

variable {name : List UInt8}

theorem relative_of_plain (plain : slash ∉ name) : Path.isAbsolute ⟨name⟩ = false := by
  cases name with
  | nil => rfl
  | cons b rest => simp_all [isAbsolute, eq_comm]

theorem head_congr {p q : Path} (first : p.bytes.head? = q.bytes.head?)
    (segment : (split p.bytes).head? = (split q.bytes).head?) : p.head = q.head := by
  simp [head, isAbsolute, startsHere, first, segment]

theorem split_append_head? (bytes : List UInt8) (more : List (List UInt8)) :
    (split bytes ++ more).head? = (split bytes).head? := by
  obtain ⟨s, ss, eq⟩ := List.exists_cons_of_ne_nil (split_ne_nil bytes)
  simp [eq]

theorem join_name_cases (d : Path) (plain : slash ∉ name) :
    (d.bytes = [] ∧ d.join ⟨name⟩ = ⟨name⟩) ∨
      (d.bytes ≠ [] ∧ (d.join ⟨name⟩).head = d.head ∧
        (d.join ⟨name⟩).steps = d.steps ++ busy [name]) := by
  have relative := relative_of_plain plain
  by_cases empty : d.bytes = []
  · exact .inl ⟨empty, by simp [join, relative, empty]⟩
  refine .inr ⟨empty, ?_⟩
  simp only [steps_eq_busy]
  by_cases slashed : d.bytes.getLast? = some slash
  · obtain ⟨front, whole⟩ := List.getLast?_eq_some_iff.mp slashed
    have joined : (d.join ⟨name⟩).bytes = front ++ slash :: name := by
      simp [join, relative, whole]
    have before : split d.bytes = split front ++ [[]] := by
      rw [whole, split_append_slash]
      rfl
    have after : split (d.join ⟨name⟩).bytes = split front ++ [name] := by
      rw [joined, split_append_slash, split_plain plain]
    refine ⟨head_congr ?_ ?_, ?_⟩
    · cases front <;> simp [joined, whole]
    · rw [before, after, split_append_head?, split_append_head?]
    · rw [before, after, busy_append, busy_append]
      simp [busy, isIdle]
  · have joined : (d.join ⟨name⟩).bytes = d.bytes ++ slash :: name := by
      simp [join, relative, slashed, empty]
    have after : split (d.join ⟨name⟩).bytes = split d.bytes ++ [name] := by
      rw [joined, split_append_slash, split_plain plain]
    refine ⟨head_congr ?_ ?_, ?_⟩
    · cases bytes : d.bytes <;> simp_all
    · rw [after, split_append_head?]
    · rw [after, busy_append]

theorem join_name_agrees {d e : Path} (agree : d.agrees e = true) (plain : slash ∉ name) :
    (d.join ⟨name⟩).agrees (e.join ⟨name⟩) = true := by
  obtain ⟨heads, steps⟩ := agrees_iff.mp agree
  have empty : d.bytes = [] ↔ e.bytes = [] := by simp [bytes_eq_nil_iff, heads, steps]
  rcases join_name_cases d plain with ⟨none, joined⟩ | ⟨some, head, step⟩
  · rcases join_name_cases e plain with ⟨-, joined'⟩ | ⟨some', -⟩
    · rw [joined, joined']
      exact agrees_refl _
    · exact absurd (empty.mp none) some'
  · rcases join_name_cases e plain with ⟨none', -⟩ | ⟨-, head', step'⟩
    · exact absurd (empty.mpr none') some
    · exact agrees_iff.mpr ⟨by rw [head, head', heads], by rw [step, step', steps]⟩

end Name

section Source

variable {p q : Path}

theorem fileName_eq (agree : p.agrees q = true) : p.fileName = q.fileName := by
  simp [fileName, (agrees_iff.mp agree).2]

theorem extension_eq (agree : p.agrees q = true) : p.extension = q.extension := by
  simp [extension, fileName_eq agree]

theorem slash_notMem_of_fileName {name : List UInt8} (named : p.fileName = some name) :
    slash ∉ name := by
  have last : p.steps.getLast? = some name := (Option.filter_eq_some_iff.mp named).1
  have mem : name ∈ p.steps := List.mem_of_getLast? last
  rw [steps_eq_busy] at mem
  exact slash_notMem_of_mem_split (List.mem_filter.mp mem).1

theorem withFileName_agrees {name : List UInt8} (agree : p.agrees q = true)
    (named : p.fileName.isSome) (plain : slash ∉ name) :
    (p.withFileName name).agrees (q.withFileName name) = true := by
  obtain ⟨heads, steps⟩ := agrees_iff.mp agree
  have moves : p.steps ≠ [] := by
    intro still
    simp [fileName, still] at named
  obtain ⟨d, parent, dHead, dSteps⟩ := parent_head_steps moves
  obtain ⟨e, parent', eHead, eSteps⟩ := parent_head_steps (steps ▸ moves)
  have directories : d.agrees e = true :=
    agrees_iff.mpr ⟨by rw [dHead, eHead, heads], by rw [dSteps, eSteps, steps]⟩
  simp only [withFileName, ← fileName_eq agree, named, ↓reduceIte, parent, parent',
    Option.getD_some]
  exact join_name_agrees directories plain

theorem stripSuffix?_plain {name rest : List UInt8} (plain : slash ∉ name)
    (cut : stripSuffix? name = some rest) : slash ∉ rest := by
  simp only [stripSuffix?, Option.ite_none_right_eq_some, Option.some.injEq] at cut
  rw [← cut.2]
  exact fun mem => plain (List.mem_of_mem_take mem)

theorem source?_cases (agree : p.agrees q = true) :
    (p.source? = none ∧ q.source? = none) ∨
      ∃ s t, p.source? = some s ∧ q.source? = some t ∧ s.agrees t = true := by
  unfold source?
  rw [← fileName_eq agree]
  cases named : p.fileName.filter fun name => (Utf8.decode? name).isSome with
  | none => exact .inl ⟨rfl, rfl⟩
  | some name =>
    have isName : p.fileName = some name := (Option.filter_eq_some_iff.mp named).1
    have plain := slash_notMem_of_fileName isName
    simp only [Option.bind_some]
    cases cut : stripSuffix? name with
    | none => exact .inl ⟨rfl, rfl⟩
    | some rest =>
      refine .inr ⟨_, _, rfl, rfl, ?_⟩
      exact withFileName_agrees agree (by simp [isName]) (stripSuffix?_plain plain cut)

theorem stage?_eq (agree : p.agrees q = true) : p.stage? = q.stage? := by
  have sources : ((p.source?).getD p).agrees ((q.source?).getD q) = true := by
    rcases source?_cases agree with ⟨none, none'⟩ | ⟨s, t, eq, eq', both⟩
    · simpa [none, none'] using agree
    · simpa [eq, eq'] using both
  simp [stage?, stageExtension, extension_eq sources]

end Source
end SceneGpu.Path
