import Mathlib.Data.List.TakeWhile
import SceneGpu.Shader.Module
/-!
The two ways to tell a bytecode path: by the last bytes of its name, and by what follows the last dot
of its name. They differ in a name that is nothing but the suffix, and where a name is no text.
-/
namespace SceneGpu

theorem bytecodeSuffix_bytes : bytecodeSuffix = [46, 115, 112, 118] := by decide +kernel

def IsSuffix (tail : List UInt8) : Prop := tail.map lowerByte = bytecodeSuffix

instance (tail : List UInt8) : Decidable (IsSuffix tail) := inferInstanceAs (Decidable (_ = _))

theorem IsSuffix.length {tail : List UInt8} (suffix : IsSuffix tail) : tail.length = 4 := by
  have same := congrArg List.length suffix
  rwa [List.length_map, bytecodeSuffix_bytes] at same

theorem lowerByte_eq_dot {b : UInt8} (lower : lowerByte b = Path.dot) : b = Path.dot := by
  unfold lowerByte at lower
  split at lower
  · rename_i upper
    simp only [Bool.and_eq_true, decide_eq_true_eq, UInt8.le_iff_toNat_le, UInt8.reduceToNat] at upper
    have value := congrArg UInt8.toNat lower
    rw [UInt8.toNat_add] at value
    simp only [Path.dot, UInt8.reduceToNat] at value
    omega
  · exact lower

theorem IsSuffix.exists_letters {tail : List UInt8} (suffix : IsSuffix tail) :
    ∃ letters, tail = Path.dot :: letters ∧ Path.dot ∉ letters := by
  rw [IsSuffix, bytecodeSuffix_bytes] at suffix
  obtain ⟨first, letters, rfl, lower, rest⟩ := List.map_eq_cons_iff.mp suffix
  refine ⟨letters, by rw [lowerByte_eq_dot lower], ?_⟩
  intro mem
  have among : lowerByte Path.dot ∈ letters.map lowerByte := List.mem_map_of_mem mem
  rw [rest] at among
  revert among
  decide

theorem stripSuffix?_eq_some_iff {name stem : List UInt8} :
    stripSuffix? name = some stem ↔ ∃ tail, name = stem ++ tail ∧ IsSuffix tail := by
  simp only [stripSuffix?, Option.ite_none_right_eq_some, Option.some.injEq, Bool.and_eq_true,
    decide_eq_true_eq]
  constructor
  · rintro ⟨⟨_, suffix⟩, rfl⟩
    exact ⟨_, (List.take_append_drop _ name).symm, suffix⟩
  · rintro ⟨tail, rfl, suffix⟩
    have four : bytecodeSuffix.length = tail.length := by
      rw [suffix.length, bytecodeSuffix_bytes]
      rfl
    have cut : (stem ++ tail).length - bytecodeSuffix.length = stem.length := by
      rw [List.length_append, four, Nat.add_sub_cancel]
    rw [cut, List.drop_left, List.take_left]
    exact ⟨⟨by rw [four, List.length_append]; exact Nat.le_add_left _ _, suffix⟩, rfl⟩

namespace Path

theorem splitDot_eq_some_iff {name before after : List UInt8} :
    splitDot name = some (before, after) ↔ name = before ++ dot :: after ∧ dot ∉ after := by
  simp only [splitDot]
  constructor
  · intro cut
    have whole := List.takeWhile_append_dropWhile (p := (· ≠ dot)) (l := name.reverse)
    have stops := List.head?_dropWhile_not (· ≠ dot) name.reverse
    have plain : dot ∉ name.reverse.takeWhile (· ≠ dot) := by
      intro mem
      simpa using List.mem_takeWhile_imp mem
    split at cut
    · cases cut
    · rename_i first rest eq
      rw [eq] at whole stops
      generalize name.reverse.takeWhile (· ≠ dot) = last at cut whole plain
      cases cut
      obtain rfl : first = dot := by simpa using stops
      refine ⟨?_, mt List.mem_reverse.mp plain⟩
      rw [← List.reverse_reverse name, ← whole]
      simp
  · rintro ⟨rfl, plain⟩
    have turned : (before ++ dot :: after).reverse = after.reverse ++ dot :: before.reverse := by
      simp
    have kept : ∀ b ∈ after.reverse, (decide (b ≠ dot)) = true := by
      intro b mem
      rw [decide_eq_true_iff]
      rintro rfl
      exact plain (List.mem_reverse.mp mem)
    rw [turned, List.takeWhile_append_of_pos kept, List.dropWhile_append_of_pos kept]
    simp

variable {p : Path}

theorem isBytecode_iff : p.isBytecode = true ↔
    ∃ stem tail, p.fileName = some (stem ++ tail) ∧ stem ≠ [] ∧ IsSuffix tail := by
  constructor
  · intro bytecode
    obtain ⟨after, ended, suffix⟩ := (Option.any_eq_true _ _).mp bytecode
    obtain ⟨⟨before, _⟩, found, same⟩ := Option.map_eq_some_iff.mp ended
    obtain ⟨cut, stem⟩ := Option.filter_eq_some_iff.mp found
    obtain ⟨name, named, cut⟩ := Option.bind_eq_some_iff.mp cut
    obtain ⟨rfl, _⟩ := splitDot_eq_some_iff.mp cut
    obtain rfl : _ = after := same
    exact ⟨before, _, named, of_decide_eq_true stem, of_decide_eq_true suffix⟩
  · rintro ⟨stem, tail, named, filled, suffix⟩
    obtain ⟨letters, rfl, plain⟩ := suffix.exists_letters
    have cut : splitDot (stem ++ dot :: letters) = some (stem, letters) :=
      splitDot_eq_some_iff.mpr ⟨rfl, plain⟩
    have ended : p.extension = some letters := by
      simp [extension, named, cut, filled]
    rw [isBytecode, ended]
    exact decide_eq_true suffix

theorem source?_eq_some_iff {source : Path} : p.source? = some source ↔
    ∃ stem tail, p.fileName = some (stem ++ tail) ∧ (Utf8.decode? (stem ++ tail)).isSome = true ∧
      IsSuffix tail ∧ p.withFileName stem = source := by
  simp only [source?, Option.bind_eq_some_iff, Option.filter_eq_some_iff, Option.map_eq_some_iff,
    stripSuffix?_eq_some_iff]
  constructor
  · rintro ⟨_, ⟨named, text⟩, stem, ⟨tail, rfl, suffix⟩, beside⟩
    exact ⟨stem, tail, named, text, suffix, beside⟩
  · rintro ⟨stem, tail, named, text, suffix, beside⟩
    exact ⟨_, ⟨named, text⟩, stem, ⟨tail, rfl, suffix⟩, beside⟩

def IsBareSuffix (p : Path) : Prop := p.fileName.map (·.map lowerByte) = some bytecodeSuffix

instance (p : Path) : Decidable p.IsBareSuffix := inferInstanceAs (Decidable (_ = _))

/-- A path with a source is a bytecode path, unless its name is the bare suffix. -/
theorem isBytecode_of_source? {source : Path} (beside : p.source? = some source)
    (named : ¬ p.IsBareSuffix) : p.isBytecode = true := by
  obtain ⟨stem, tail, name, _, suffix, _⟩ := source?_eq_some_iff.mp beside
  refine isBytecode_iff.mpr ⟨stem, tail, name, ?_, suffix⟩
  rintro rfl
  rw [IsBareSuffix, name] at named
  exact named (congrArg some suffix)

end Path
end SceneGpu
