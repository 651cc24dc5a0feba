import Mathlib.Algebra.Group.Nat.Defs
import SceneGpu.Device.Descriptor
/-!
Versions packed into a word, and the text that is made of them. The text falls apart at its dots into
the decimal digits of three numbers, and these are the bits of the word again.
-/
namespace SceneGpu

namespace Text

theorem readDecimal?_toDigits (n : Nat) : readDecimal? (Nat.toDigits 10 n) = some n := by
  have digits : ∀ c ∈ Nat.toDigits 10 n, c.isDigit = true := by
    intro c mem
    exact Nat.isDigit_of_mem_toDigits (by decide) (by decide) mem
  have value : (Nat.toDigits 10 n).foldl (fun m c => m * 10 + digitValue c) 0 = n := by
    calc (Nat.toDigits 10 n).foldl (fun m c => m * 10 + digitValue c) 0
        = Nat.ofDigitChars 10 (Nat.toDigits 10 n) 0 := by
          simp only [Nat.ofDigitChars_eq_foldl, Nat.mul_comm, digitValue]
      _ = n := Nat.ofDigitChars_ten_toDigits
  unfold readDecimal?
  rw [List.all_eq_true.mpr digits, value]
  simp [Nat.toDigits_ne_nil]

theorem readWord?_toDigits {n : Nat} (small : n < UInt32.size) :
    readWord? (Nat.toDigits 10 n) = some n := by
  unfold readWord?
  split
  · rename_i rest plus
    have digit : '+'.isDigit = true := by
      have mem : '+' ∈ Nat.toDigits 10 n := plus ▸ List.mem_cons_self
      exact Nat.isDigit_of_mem_toDigits (by decide) (by decide) mem
    exact absurd digit (by decide)
  · dsimp only
    rw [readDecimal?_toDigits]
    simp [small]

end Text

/-- The numbers in the upper ten, the middle ten and the lower twelve bits. -/
def versionParts (v : UInt32) : List Nat :=
  [(v >>> 22).toNat, ((v >>> 12) &&& 0x3FF).toNat, (v &&& 0xFFF).toNat]

theorem dot_notMem_toDigits (n : Nat) : '.' ∉ Nat.toDigits 10 n := by
  intro mem
  have digit := Nat.isDigit_of_mem_toDigits (by decide) (by decide) mem
  exact absurd digit (by decide)

theorem toList_decodeVersion (v : UInt32) :
    (decodeVersion v).toList = ['.'].intercalate ((versionParts v).map (Nat.toDigits 10)) := by
  simp [decodeVersion, versionParts]

theorem splitOn_decodeVersion (v : UInt32) :
    (decodeVersion v).toList.splitOn '.' = (versionParts v).map (Nat.toDigits 10) := by
  rw [toList_decodeVersion]
  refine List.splitOn_intercalate '.' ?_ (by simp [versionParts])
  intro digits mem
  obtain ⟨n, _, rfl⟩ := List.mem_map.mp mem
  exact dot_notMem_toDigits n

theorem toNat_versionParts (v : UInt32) :
    (v >>> 22).toNat = v.toNat / 2 ^ 22 ∧ ((v >>> 12) &&& 0x3FF).toNat = v.toNat / 2 ^ 12 % 2 ^ 10 ∧
      (v &&& 0xFFF).toNat = v.toNat % 2 ^ 12 := by
  have ten : (0x3FF : UInt32).toNat = 2 ^ 10 - 1 := rfl
  have twelve : (0xFFF : UInt32).toNat = 2 ^ 12 - 1 := rfl
  rw [UInt32.toNat_and, UInt32.toNat_and, ten, twelve, Nat.and_two_pow_sub_one_eq_mod,
    Nat.and_two_pow_sub_one_eq_mod]
  simp [Nat.shiftRight_eq_div_pow]

theorem readWord?_versionParts (v : UInt32) :
    ((decodeVersion v).toList.splitOn '.').map Text.readWord? = (versionParts v).map some := by
  rw [splitOn_decodeVersion, List.map_map]
  refine List.map_congr_left ?_
  intro n mem
  refine Text.readWord?_toDigits ?_
  simp only [versionParts, List.mem_cons, List.not_mem_nil, or_false] at mem
  obtain rfl | rfl | rfl := mem <;> exact UInt32.toNat_lt _

theorem driverMajor_ofProperties (p : DeviceProperties) :
    (DeviceDescriptor.ofProperties p).driverMajor = some (p.driverVersion >>> 22).toNat := by
  have front : (decodeVersion p.driverVersion).toList.takeWhile (· ≠ '.') =
      Nat.toDigits 10 (p.driverVersion >>> 22).toNat := by
    have plain : ∀ c ∈ Nat.toDigits 10 (p.driverVersion >>> 22).toNat, decide (c ≠ '.') = true := by
      intro c mem
      refine decide_eq_true ?_
      rintro rfl
      exact dot_notMem_toDigits _ mem
    rw [toList_decodeVersion, versionParts, List.map_cons, List.map_cons, List.intercalate_cons_cons,
      List.append_assoc, List.takeWhile_append_of_pos plain]
    simp
  change Text.readWord? ((decodeVersion p.driverVersion).toList.takeWhile (· ≠ '.')) = _
  rw [front, Text.readWord?_toDigits (UInt32.toNat_lt _)]

/-- The text of a version tells its bits, so no two versions share one; a driver's major version is the
upper ten bits. -/
theorem decodeVersion_tells_bits :
    (∀ v : UInt32, ∃ a b c : Nat,
      ((decodeVersion v).toList.splitOn '.').map Text.readWord? = [some a, some b, some c] ∧
      v.toNat = a * 2 ^ 22 + b * 2 ^ 12 + c ∧ b < 2 ^ 10 ∧ c < 2 ^ 12) ∧
    Function.Injective decodeVersion ∧
    ∀ p : DeviceProperties,
      (DeviceDescriptor.ofProperties p).driverMajor = some (p.driverVersion >>> 22).toNat := by
  refine ⟨?_, ?_, driverMajor_ofProperties⟩
  · intro v
    obtain ⟨major, minor, patch⟩ := toNat_versionParts v
    refine ⟨_, _, _, readWord?_versionParts v, ?_⟩
    rw [major, minor, patch]
    omega
  · intro v w same
    have parts : (versionParts v).map some = (versionParts w).map some := by
      rw [← readWord?_versionParts, same, readWord?_versionParts]
    simp only [versionParts, List.map_cons, List.map_nil, List.cons.injEq, Option.some.injEq,
      and_true, toNat_versionParts] at parts
    apply UInt32.toNat_inj.mp
    omega

end SceneGpu
