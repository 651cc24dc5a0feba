import SceneGpu.Proofs.Path.Agreement
import SceneGpu.Proofs.Path.Suffix
import SceneGpu.Proofs.Text.Decoding
/-!
Sources and bytecode files by their names. A path has a source exactly if its file name is text and ends
in the suffix, and a file that is named like a source with the suffix behind it has that source. The test
by the extension says the same, but for the bare suffix and for names that are no text.
-/
namespace SceneGpu

def suffixSpellings : List String :=
  [".spv", ".spV", ".sPv", ".sPV", ".Spv", ".SpV", ".SPv", ".SPV"]

section Suffix

variable {tail : List UInt8} {ending : String}

theorem lowerByte_eq_cases {b c : UInt8} (lower : lowerByte b = c) : b = c ∨ b = c - 32 := by
  unfold lowerByte at lower
  split at lower
  · exact .inr (by rw [← lower, UInt8.add_sub_cancel])
  · exact .inl lower

theorem isSuffix_iff : IsSuffix tail ↔ ∃ ending ∈ suffixSpellings, Utf8.encodeText ending = tail := by
  constructor
  · intro suffix
    obtain ⟨letters, rfl, _⟩ := suffix.exists_letters
    rw [IsSuffix, bytecodeSuffix_bytes] at suffix
    have three : letters.map lowerByte = [115, 112, 118] := (List.cons.inj suffix).2
    obtain ⟨s, _, rfl, first, three⟩ := List.map_eq_cons_iff.mp three
    obtain ⟨p, _, rfl, second, three⟩ := List.map_eq_cons_iff.mp three
    obtain ⟨v, _, rfl, third, three⟩ := List.map_eq_cons_iff.mp three
    obtain rfl := List.map_eq_nil_iff.mp three
    rcases lowerByte_eq_cases first with rfl | rfl <;>
      rcases lowerByte_eq_cases second with rfl | rfl <;>
        rcases lowerByte_eq_cases third with rfl | rfl <;> decide +kernel
  · rintro ⟨ending, mem, rfl⟩
    have each : ∀ ending ∈ suffixSpellings, IsSuffix (Utf8.encodeText ending) := by decide +kernel
    exact each ending mem

theorem IsSuffix.low (suffix : IsSuffix tail) : ∀ b ∈ tail, b < 0x80 := by
  obtain ⟨ending, mem, rfl⟩ := isSuffix_iff.mp suffix
  have each : ∀ ending ∈ suffixSpellings, ∀ b ∈ Utf8.encodeText ending, b < 0x80 := by decide +kernel
  exact each ending mem

/-- No character reaches across the cut. -/
theorem IsSuffix.isSome_decode? (suffix : IsSuffix tail) (stem : List UInt8) :
    (Utf8.decode? (stem ++ tail)).isSome = (Utf8.decode? stem).isSome := by
  rw [Utf8.decode?_append_low suffix.low, Option.isSome_map]

end Suffix

namespace Path

structure IsFileName (n : String) : Prop where
  filled : n ≠ ""
  notHere : n ≠ "."
  notUp : n ≠ ".."
  plain : '/' ∉ n.toList

section Named

variable {n ending : String}

theorem encodeText_dot : Utf8.encodeText "." = [dot] := by decide +kernel

theorem encodeText_dots : Utf8.encodeText ".." = [dot, dot] := by decide +kernel

theorem IsFileName.not_isIdle (name : IsFileName n) : isIdle (Utf8.encodeText n) = false := by
  have filled : Utf8.encodeText n ≠ [] := fun empty => name.filled (Utf8.encodeText_inj empty)
  have notHere : Utf8.encodeText n ≠ [dot] := fun here =>
    name.notHere (Utf8.encodeText_inj (here.trans encodeText_dot.symm))
  simp [isIdle, filled, notHere]

theorem IsFileName.not_isUp (name : IsFileName n) : isUp (Utf8.encodeText n) = false := by
  have notUp : Utf8.encodeText n ≠ [dot, dot] := fun up =>
    name.notUp (Utf8.encodeText_inj (up.trans encodeText_dots.symm))
  simp [isUp, notUp]

theorem IsFileName.slash_notMem (name : IsFileName n) : slash ∉ Utf8.encodeText n :=
  mt (Utf8.mem_encode_iff (by decide)).mp name.plain

theorem IsFileName.append_ending (name : IsFileName n) (mem : ending ∈ suffixSpellings) :
    IsFileName (n ++ ending) := by
  have four : ∀ ending ∈ suffixSpellings, ending.toList.length = 4 ∧ '/' ∉ ending.toList := by
    decide +kernel
  have long : 4 ≤ (n ++ ending).toList.length := by
    rw [String.toList_append, List.length_append, (four ending mem).1]
    exact Nat.le_add_left 4 _
  exact {
    filled := by
      intro same
      rw [same] at long
      exact absurd long (by decide +kernel)
    notHere := by
      intro same
      rw [same] at long
      exact absurd long (by decide +kernel)
    notUp := by
      intro same
      rw [same] at long
      exact absurd long (by decide +kernel)
    plain := by
      rw [String.toList_append, List.mem_append, not_or]
      exact ⟨name.plain, (four ending mem).2⟩ }

theorem join_head_steps (dir : Path) (name : IsFileName n) :
    (dir.join (ofText n)).head = dir.head ∧
      (dir.join (ofText n)).steps = dir.steps ++ [Utf8.encodeText n] := by
  have plain := name.slash_notMem
  have step : busy [Utf8.encodeText n] = [Utf8.encodeText n] := by simp [busy, name.not_isIdle]
  rcases join_name_cases dir plain with ⟨empty, alone⟩ | ⟨_, head, steps⟩
  · obtain ⟨bare, still⟩ := bytes_eq_nil_iff.mp empty
    have relative := relative_of_plain plain
    have away : startsHere ⟨Utf8.encodeText n⟩ = false := by
      have idle := name.not_isIdle
      rw [isIdle, Bool.or_eq_false_iff, decide_eq_false_iff_not, decide_eq_false_iff_not] at idle
      simp [startsHere, split_plain plain, idle.2]
    rw [ofText, alone, bare, still, steps_eq_busy, split_plain plain, step]
    exact ⟨by simp [Path.head, relative, away], rfl⟩
  · rw [step] at steps
    exact ⟨head, steps⟩

theorem fileName_join (dir : Path) (name : IsFileName n) :
    (dir.join (ofText n)).fileName = some (Utf8.encodeText n) := by
  rw [fileName, (join_head_steps dir name).2, List.getLast?_concat]
  simp [name.not_isUp]

theorem withFileName_join (dir : Path) (name : IsFileName n) {other : List UInt8}
    (plain : slash ∉ other) :
    ((dir.join (ofText n)).withFileName other).agrees (dir.join ⟨other⟩) = true := by
  obtain ⟨head, steps⟩ := join_head_steps dir name
  obtain ⟨d, parent, dHead, dSteps⟩ := parent_head_steps (p := dir.join (ofText n)) (by simp [steps])
  have back : d.agrees dir = true := by
    refine agrees_iff.mpr ⟨dHead.trans head, ?_⟩
    rw [dSteps, steps, List.dropLast_concat]
  simp only [withFileName, fileName_join dir name, Option.isSome_some, ↓reduceIte, parent,
    Option.getD_some]
  exact join_name_agrees back plain

theorem fileName_join_ending (dir : Path) (name : IsFileName n) (mem : ending ∈ suffixSpellings) :
    (dir.join (ofText (n ++ ending))).fileName =
      some (Utf8.encodeText n ++ Utf8.encodeText ending) := by
  rw [fileName_join dir (name.append_ending mem), Utf8.encodeText_append]

theorem source?_join (dir : Path) (name : IsFileName n) (mem : ending ∈ suffixSpellings) :
    ∃ s, (dir.join (ofText (n ++ ending))).source? = some s ∧
      s.agrees (dir.join (ofText n)) = true := by
  have text : (Utf8.decode? (Utf8.encodeText n ++ Utf8.encodeText ending)).isSome = true :=
    Utf8.isSome_decode?_iff.mpr ⟨_, Utf8.encodeText_append n ending⟩
  refine ⟨_, source?_eq_some_iff.mpr ⟨_, _, fileName_join_ending dir name mem, text,
    isSuffix_iff.mpr ⟨ending, mem, rfl⟩, rfl⟩, ?_⟩
  exact withFileName_join dir (name.append_ending mem) name.slash_notMem

theorem isBytecode_join (dir : Path) (name : IsFileName n) (mem : ending ∈ suffixSpellings) :
    (dir.join (ofText (n ++ ending))).isBytecode = true := by
  have filled : Utf8.encodeText n ≠ [] := fun empty => name.filled (Utf8.encodeText_inj empty)
  exact isBytecode_iff.mpr
    ⟨_, _, fileName_join_ending dir name mem, filled, isSuffix_iff.mpr ⟨ending, mem, rfl⟩⟩

theorem stageExtension_join (dir : Path) (name : IsFileName n) (mem : ending ∈ suffixSpellings) :
    (dir.join (ofText (n ++ ending))).stageExtension =
      ((dir.join (ofText n)).extension.bind Utf8.decodeText?).getD "" := by
  obtain ⟨s, source, agree⟩ := source?_join dir name mem
  rw [stageExtension, source, Option.getD_some, extension_eq agree]

theorem splitDot_encodeText {before after : String} (last : '.' ∉ after.toList) :
    splitDot (Utf8.encodeText (before ++ "." ++ after)) =
      some (Utf8.encodeText before, Utf8.encodeText after) := by
  refine splitDot_eq_some_iff.mpr ⟨?_, mt (Utf8.mem_encode_iff (by decide)).mp last⟩
  rw [Utf8.encodeText_append, Utf8.encodeText_append, encodeText_dot, List.append_assoc]
  rfl

theorem extension_join (dir : Path) {before after : String} (name : IsFileName (before ++ "." ++ after))
    (filled : before ≠ "") (last : '.' ∉ after.toList) :
    (dir.join (ofText (before ++ "." ++ after))).extension = some (Utf8.encodeText after) := by
  have some : Utf8.encodeText before ≠ [] := fun empty => filled (Utf8.encodeText_inj empty)
  rw [extension, fileName_join dir name, Option.bind_some, splitDot_encodeText last,
    Option.filter_some, if_pos (decide_eq_true some)]
  rfl

theorem extension_join_none (dir : Path) (name : IsFileName n) (plain : '.' ∉ n.toList.drop 1) :
    (dir.join (ofText n)).extension = none := by
  rw [extension, fileName_join dir name, Option.bind_some, Option.map_eq_none_iff,
    Option.filter_eq_none_iff]
  rintro ⟨before, after⟩ cut
  obtain ⟨whole, _⟩ := splitDot_eq_some_iff.mp cut
  have text := Utf8.decode?_eq_some_iff.mpr (whole : Utf8.encode n.toList = before ++ dot :: after)
  rw [Utf8.decode?_append (by decide)] at text
  obtain ⟨cs, front, text⟩ := Option.bind_eq_some_iff.mp text
  obtain ⟨ds, _, text⟩ := Option.map_eq_some_iff.mp text
  -- A dot with nothing ahead of it cuts no name, and one with a character ahead is not at the front.
  cases cs with
  | nil =>
    have empty := Utf8.encode_of_decode? front
    simp [← empty, Utf8.encode]
  | cons c cs =>
    rw [← text] at plain
    exact absurd (List.mem_append_right cs List.mem_cons_self) plain

end Named

section Tests

variable {p : Path} {stem tail : List UInt8}

theorem source?_isSome_of_named (named : p.fileName = some (stem ++ tail)) (suffix : IsSuffix tail) :
    p.source?.isSome = true ↔ ∃ s : String, Utf8.encodeText s = stem := by
  rw [← Utf8.isSome_decode?_iff, Option.isSome_iff_exists]
  constructor
  · rintro ⟨source, found⟩
    obtain ⟨_, _, named', text, _, _⟩ := source?_eq_some_iff.mp found
    rwa [← Option.some.inj (named.symm.trans named'), suffix.isSome_decode?] at text
  · intro text
    rw [← suffix.isSome_decode?] at text
    exact ⟨_, source?_eq_some_iff.mpr ⟨stem, tail, named, text, suffix, rfl⟩⟩

theorem isBytecode_of_named (named : p.fileName = some (stem ++ tail)) (suffix : IsSuffix tail) :
    p.isBytecode = true ↔ stem ≠ [] := by
  rw [isBytecode_iff]
  constructor
  · rintro ⟨stem', tail', named', filled, suffix'⟩ rfl
    have lengths := congrArg List.length (Option.some.inj (named.symm.trans named'))
    rw [List.length_append, List.length_append, suffix.length, suffix'.length] at lengths
    exact filled (List.length_eq_zero_iff.mp (Nat.add_right_cancel lengths).symm)
  · exact fun filled => ⟨stem, tail, named, filled, suffix⟩

theorem source?_cut {source : Path} (beside : p.source? = some source) :
    ∃ stem ending, ending ∈ suffixSpellings ∧
      p.fileName = some (Utf8.encodeText (stem ++ ending)) ∧
      source = p.withFileName (Utf8.encodeText stem) := by
  obtain ⟨stem, tail, named, text, suffix, rfl⟩ := source?_eq_some_iff.mp beside
  rw [suffix.isSome_decode?] at text
  obtain ⟨s, rfl⟩ := Utf8.isSome_decode?_iff.mp text
  obtain ⟨ending, mem, rfl⟩ := isSuffix_iff.mp suffix
  exact ⟨s, ending, mem, by rw [named, Utf8.encodeText_append], rfl⟩

theorem isBytecode_eq_source?_isSome_iff (p : Path) :
    p.isBytecode = p.source?.isSome ↔
      ∀ stem, ∀ ending ∈ suffixSpellings, p.fileName = some (stem ++ Utf8.encodeText ending) →
        stem ≠ [] ∧ ∃ s : String, Utf8.encodeText s = stem := by
  constructor
  · intro same stem ending mem named
    have suffix := isSuffix_iff.mpr ⟨ending, mem, rfl⟩
    have source := source?_isSome_of_named named suffix
    have bytecode := isBytecode_of_named named suffix
    rw [same, source] at bytecode
    have filled : stem ≠ [] := by
      intro empty
      exact bytecode.mp ⟨"", empty.symm⟩ empty
    exact ⟨filled, bytecode.mpr filled⟩
  · intro texts
    rw [Bool.eq_iff_iff]
    constructor
    · intro bytecode
      obtain ⟨stem, tail, named, _, suffix⟩ := isBytecode_iff.mp bytecode
      obtain ⟨ending, mem, rfl⟩ := isSuffix_iff.mp suffix
      exact (source?_isSome_of_named named suffix).mpr (texts stem ending mem named).2
    · intro some
      obtain ⟨source, beside⟩ := Option.isSome_iff_exists.mp some
      obtain ⟨stem, tail, named, _, suffix, _⟩ := source?_eq_some_iff.mp beside
      obtain ⟨ending, mem, rfl⟩ := isSuffix_iff.mp suffix
      exact (isBytecode_of_named named suffix).mpr (texts stem ending mem named).1

/-- The bare suffix has a source and is no bytecode, and a name that is no text is bytecode and has no
source. -/
theorem bare_suffix_apart :
    (ofText "shaders/.spv").isBytecode = false ∧
      (ofText "shaders/.spv").source? = some (ofText "shaders/") ∧
      isBytecode ⟨[0xFF, 46, 115, 112, 118]⟩ = true ∧ source? ⟨[0xFF, 46, 115, 112, 118]⟩ = none ∧
      ¬ ∀ p : Path, p.isBytecode = true ↔ p.source?.isSome = true := by
  have other : (ofText "shaders/.spv").isBytecode = false := by decide +kernel
  have beside : (ofText "shaders/.spv").source? = some (ofText "shaders/") := by decide +kernel
  refine ⟨other, beside, by decide +kernel, by decide +kernel, ?_⟩
  intro same
  have bytecode := (same (ofText "shaders/.spv")).mpr (by rw [beside]; rfl)
  rw [other] at bytecode
  cases bytecode

/-- Which paths have a source, where their names are cut for it, and what is found of a file whose name
is put together from another and the suffix. -/
theorem source?_undoes_ending :
    (∀ p : Path, p.source?.isSome = true ↔
      ∃ (name : String) (stem : List UInt8) (ending : String), ending ∈ suffixSpellings ∧
        p.fileName = some (Utf8.encodeText name) ∧
        Utf8.encodeText name = stem ++ Utf8.encodeText ending) ∧
    (∀ p source : Path, p.source? = some source →
      ∃ stem ending, ending ∈ suffixSpellings ∧
        p.fileName = some (Utf8.encodeText (stem ++ ending)) ∧
        source = p.withFileName (Utf8.encodeText stem)) ∧
    ∀ (dir : Path) (n ending : String), IsFileName n → ending ∈ suffixSpellings →
      (∃ source, (dir.join (ofText (n ++ ending))).source? = some source ∧
        source.agrees (dir.join (ofText n)) = true) ∧
      (dir.join (ofText (n ++ ending))).isBytecode = true ∧
      (∀ before after : String, n = before ++ "." ++ after → before ≠ "" → '.' ∉ after.toList →
        (dir.join (ofText (n ++ ending))).stageExtension = after) ∧
      ('.' ∉ n.toList.drop 1 → (dir.join (ofText (n ++ ending))).stageExtension = "") := by
  refine ⟨fun p => ?_, fun p source beside => source?_cut beside, ?_⟩
  · constructor
    · intro some
      obtain ⟨source, beside⟩ := Option.isSome_iff_exists.mp some
      obtain ⟨stem, ending, mem, named, _⟩ := source?_cut beside
      exact ⟨stem ++ ending, _, ending, mem, named, Utf8.encodeText_append stem ending⟩
    · rintro ⟨name, stem, ending, mem, named, cut⟩
      have suffix := isSuffix_iff.mpr ⟨ending, mem, rfl⟩
      have text := Utf8.isSome_decode?_iff.mpr ⟨name, cut⟩
      rw [suffix.isSome_decode?, Utf8.isSome_decode?_iff] at text
      rw [cut] at named
      exact (source?_isSome_of_named named suffix).mpr text
  · intro dir n ending name mem
    refine ⟨source?_join dir name mem, isBytecode_join dir name mem, ?_, ?_⟩
    · rintro before after rfl filled last
      have text := Utf8.decode?_eq_some_iff.mpr (rfl : Utf8.encode after.toList = _)
      rw [stageExtension_join dir name mem, extension_join dir name filled last, Option.bind_some,
        Utf8.decodeText?, Utf8.encodeText, text, Option.map_some, String.ofList_toList]
      rfl
    · intro plain
      rw [stageExtension_join dir name mem, extension_join_none dir name plain]
      rfl

theorem source?_undoes_ending_twice :
    IsFileName "lit.frag.SPV" ∧ ".spV" ∈ suffixSpellings ∧
      ∃ source, ((ofText "shaders").join (ofText ("lit.frag.SPV" ++ ".spV"))).source? = some source ∧
        source.agrees ((ofText "shaders").join (ofText "lit.frag.SPV")) = true ∧
        ((ofText "shaders").join (ofText ("lit.frag.SPV" ++ ".spV"))).stageExtension = "SPV" := by
  have name : IsFileName "lit.frag.SPV" := ⟨by decide, by decide, by decide, by decide⟩
  have mem : ".spV" ∈ suffixSpellings := by decide
  obtain ⟨⟨source, beside, agree⟩, _, stage, _⟩ :=
    source?_undoes_ending.2.2 (ofText "shaders") "lit.frag.SPV" ".spV" name mem
  exact ⟨name, mem, source, beside, agree, stage "lit.frag" "SPV" (by decide) (by decide) (by decide)⟩

end Tests

end Path
end SceneGpu
