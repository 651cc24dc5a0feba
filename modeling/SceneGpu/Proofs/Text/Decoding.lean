import Mathlib.Tactic.SplitIfs
import SceneGpu.Proofs.Text.Utf8
/-!
Decoding undoes encoding, and nothing else is decoded: a byte list is text exactly if it is the encoding
of characters, and it is that of no others. A unit is the encoding of one character.
-/
namespace SceneGpu.Utf8

/-- The range of the byte behind a leading byte. Some leave out what is written with fewer bytes, the
surrogates, and what lies past the last character. -/
def secondRange (n : Nat) : UInt8 × UInt8 :=
  (if n = 0xE0 then 0xA0 else if n = 0xF0 then 0x90 else 0x80,
    if n = 0xED then 0x9F else if n = 0xF4 then 0x8F else 0xBF)

def Within (range : UInt8 × UInt8) (b : UInt8) : Prop :=
  range.1.toNat ≤ b.toNat ∧ b.toNat ≤ range.2.toNat

theorem within_rest {b : UInt8} : Within (0x80, 0xBF) b ↔ 0x80 ≤ b.toNat ∧ b.toNat ≤ 0xBF := Iff.rfl

theorem within_second {n : Nat} {b : UInt8} : Within (secondRange n) b ↔
    0x80 ≤ b.toNat ∧ b.toNat ≤ 0xBF ∧ (n = 0xE0 → 0xA0 ≤ b.toNat) ∧ (n = 0xF0 → 0x90 ≤ b.toNat) ∧
      (n = 0xED → b.toNat ≤ 0x9F) ∧ (n = 0xF4 → b.toNat ≤ 0x8F) := by
  simp only [Within, secondRange]
  split_ifs <;> simp <;> omega

theorem lead_ofNat : ∀ n < 256, lead (UInt8.ofNat n) =
    if n < 0x80 then some (n, [])
    else if n < 0xC2 then none
    else if n < 0xE0 then some (n % 32, [secondRange n])
    else if n < 0xF0 then some (n % 16, [secondRange n, (0x80, 0xBF)])
    else if n < 0xF5 then some (n % 8, [secondRange n, (0x80, 0xBF), (0x80, 0xBF)])
    else none := by
  decide +kernel

theorem follow_nil_iff {acc n : Nat} {bytes after : List UInt8} :
    follow [] acc bytes = (some n, after) ↔ acc = n ∧ bytes = after := by
  simp [follow]

theorem follow_cons_iff {range : UInt8 × UInt8} {ranges : List (UInt8 × UInt8)} {acc n : Nat}
    {bytes after : List UInt8} :
    follow (range :: ranges) acc bytes = (some n, after) ↔
      ∃ b rest, bytes = b :: rest ∧ Within range b ∧
        follow ranges (acc * 64 + b.toNat % 64) rest = (some n, after) := by
  obtain ⟨lo, hi⟩ := range
  cases bytes with
  | nil => simp [follow]
  | cons b rest =>
    have fits : (lo ≤ b && b ≤ hi) = true ↔ Within (lo, hi) b := by
      simp [Within, UInt8.le_iff_toNat_le]
    rw [follow]
    by_cases within : Within (lo, hi) b
    · rw [if_pos (fits.mpr within)]
      constructor
      · exact fun run => ⟨b, rest, rfl, within, run⟩
      · rintro ⟨_, _, same, _, run⟩
        cases same
        exact run
    · rw [if_neg (mt fits.mp within)]
      constructor
      · intro impossible
        cases impossible
      · rintro ⟨_, _, same, inside, _⟩
        cases same
        exact absurd inside within

theorem unit_eq_some_iff {b : UInt8} {rest after : List UInt8} {c : Char} :
    unit b rest = (some c, after) ↔ ∃ payload ranges n, lead b = some (payload, ranges) ∧
      follow ranges payload rest = (some n, after) ∧ Char.ofNat n = c := by
  unfold unit
  cases lead b with
  | none => simp
  | some l =>
    obtain ⟨payload, ranges⟩ := l
    constructor
    · intro run
      obtain ⟨read, left⟩ := Prod.mk.inj run
      obtain ⟨n, got, rfl⟩ := Option.map_eq_some_iff.mp read
      exact ⟨payload, ranges, n, rfl, Prod.ext got left, rfl⟩
    · rintro ⟨_, _, n, same, run, rfl⟩
      cases same
      simp [run]

theorem toNat_char {n : Nat} (valid : n.isValidChar) : (Char.ofNat n).val.toNat = n := by
  rw [Char.ofNat, dif_pos valid]
  rfl

theorem ofNat_of_eq {n : Nat} {b : UInt8} (eq : n = b.toNat) : UInt8.ofNat n = b := by
  rw [eq, UInt8.ofNat_toNat]

theorem encodeChar_of_unit {b : UInt8} {rest after : List UInt8} {c : Char}
    (read : unit b rest = (some c, after)) : String.utf8EncodeChar c ++ after = b :: rest := by
  obtain ⟨payload, ranges, n, led, run, rfl⟩ := unit_eq_some_iff.mp read
  have byte := b.toNat_lt
  rw [← UInt8.ofNat_toNat (x := b), lead_ofNat b.toNat byte] at led
  split_ifs at led with one broken two three four
  · cases led
    obtain ⟨rfl, rfl⟩ := follow_nil_iff.mp run
    rw [String.utf8EncodeChar.eq_1, toNat_char (by left; omega), if_pos (by omega),
      UInt8.ofNat_toNat]
    rfl
  · cases led
    obtain ⟨b₁, _, rfl, second, run⟩ := follow_cons_iff.mp run
    obtain ⟨rfl, rfl⟩ := follow_nil_iff.mp run
    rw [within_second] at second
    have valid : (b.toNat % 32 * 64 + b₁.toNat % 64).isValidChar := by left; omega
    rw [String.utf8EncodeChar.eq_1, toNat_char valid, if_neg (by omega), if_pos (by omega),
      ofNat_of_eq (b := b) (by omega), ofNat_of_eq (b := b₁) (by omega)]
    rfl
  · cases led
    obtain ⟨b₁, _, rfl, second, run⟩ := follow_cons_iff.mp run
    obtain ⟨b₂, _, rfl, third, run⟩ := follow_cons_iff.mp run
    obtain ⟨rfl, rfl⟩ := follow_nil_iff.mp run
    rw [within_second] at second
    rw [within_rest] at third
    have valid : ((b.toNat % 16 * 64 + b₁.toNat % 64) * 64 + b₂.toNat % 64).isValidChar := by
      unfold Nat.isValidChar
      omega
    rw [String.utf8EncodeChar.eq_1, toNat_char valid, if_neg (by omega), if_neg (by omega),
      if_pos (by omega), ofNat_of_eq (b := b) (by omega), ofNat_of_eq (b := b₁) (by omega),
      ofNat_of_eq (b := b₂) (by omega)]
    rfl
  · cases led
    obtain ⟨b₁, _, rfl, second, run⟩ := follow_cons_iff.mp run
    obtain ⟨b₂, _, rfl, third, run⟩ := follow_cons_iff.mp run
    obtain ⟨b₃, _, rfl, fourth, run⟩ := follow_cons_iff.mp run
    obtain ⟨rfl, rfl⟩ := follow_nil_iff.mp run
    rw [within_second] at second
    rw [within_rest] at third fourth
    have valid : (((b.toNat % 8 * 64 + b₁.toNat % 64) * 64 + b₂.toNat % 64) * 64 +
        b₃.toNat % 64).isValidChar := by
      unfold Nat.isValidChar
      omega
    rw [String.utf8EncodeChar.eq_1, toNat_char valid, if_neg (by omega), if_neg (by omega),
      if_neg (by omega), ofNat_of_eq (b := b) (by omega), ofNat_of_eq (b := b₁) (by omega),
      ofNat_of_eq (b := b₂) (by omega), ofNat_of_eq (b := b₃) (by omega)]
    rfl

theorem toNat_byte {n : Nat} (byte : n < 256) : (UInt8.ofNat n).toNat = n := by
  rw [UInt8.toNat_ofNat', Nat.mod_eq_of_lt byte]

theorem unit_encodeChar (c : Char) (after : List UInt8) :
    ∃ b more, String.utf8EncodeChar c = b :: more ∧ unit b (more ++ after) = (some c, after) := by
  have valid : c.val.toNat < 0xD800 ∨ 0xDFFF < c.val.toNat ∧ c.val.toNat < 0x110000 := c.valid
  have back : Char.ofNat c.val.toNat = c := Char.ofNat_toNat c
  rw [String.utf8EncodeChar.eq_1]
  generalize c.val.toNat = v at valid back
  subst back
  have rest : (UInt8.ofNat (v % 64 + 128)).toNat = v % 64 + 128 := toNat_byte (by omega)
  have sixth : (UInt8.ofNat (v / 64 % 64 + 128)).toNat = v / 64 % 64 + 128 := toNat_byte (by omega)
  split_ifs with one two three
  · have led := lead_ofNat v (by omega)
    rw [if_pos (by omega)] at led
    refine ⟨_, _, rfl, unit_eq_some_iff.mpr ⟨_, _, v, led, ?_, rfl⟩⟩
    exact follow_nil_iff.mpr ⟨rfl, rfl⟩
  · have led := lead_ofNat (v / 64 % 32 + 192) (by omega)
    rw [if_neg (by omega), if_neg (by omega), if_pos (by omega)] at led
    refine ⟨_, _, rfl, unit_eq_some_iff.mpr ⟨_, _, v, led, ?_, rfl⟩⟩
    refine follow_cons_iff.mpr ⟨_, _, rfl, within_second.mpr (by omega), ?_⟩
    exact follow_nil_iff.mpr ⟨by omega, rfl⟩
  · have led := lead_ofNat (v / 4096 % 16 + 224) (by omega)
    rw [if_neg (by omega), if_neg (by omega), if_neg (by omega), if_pos (by omega)] at led
    refine ⟨_, _, rfl, unit_eq_some_iff.mpr ⟨_, _, v, led, ?_, rfl⟩⟩
    refine follow_cons_iff.mpr ⟨_, _, rfl, within_second.mpr (by omega), ?_⟩
    refine follow_cons_iff.mpr ⟨_, _, rfl, within_rest.mpr (by omega), ?_⟩
    exact follow_nil_iff.mpr ⟨by omega, rfl⟩
  · have twelfth : (UInt8.ofNat (v / 4096 % 64 + 128)).toNat = v / 4096 % 64 + 128 :=
      toNat_byte (by omega)
    have led := lead_ofNat (v / 262144 % 8 + 240) (by omega)
    rw [if_neg (by omega), if_neg (by omega), if_neg (by omega), if_neg (by omega),
      if_pos (by omega)] at led
    refine ⟨_, _, rfl, unit_eq_some_iff.mpr ⟨_, _, v, led, ?_, rfl⟩⟩
    refine follow_cons_iff.mpr ⟨_, _, rfl, within_second.mpr (by omega), ?_⟩
    refine follow_cons_iff.mpr ⟨_, _, rfl, within_rest.mpr (by omega), ?_⟩
    refine follow_cons_iff.mpr ⟨_, _, rfl, within_rest.mpr (by omega), ?_⟩
    exact follow_nil_iff.mpr ⟨by omega, rfl⟩

theorem units_encode (cs : List Char) : units (encode cs) = cs.map some := by
  induction cs with
  | nil => simp [encode, units]
  | cons c cs ih =>
    obtain ⟨b, more, encoded, read⟩ := unit_encodeChar c (encode cs)
    have whole : encode (c :: cs) = b :: (more ++ encode cs) := by
      rw [encode, List.flatMap_cons, encoded]
      rfl
    rw [whole, units, read, ih]
    rfl

theorem encode_of_decode? {bytes : List UInt8} {cs : List Char} (text : decode? bytes = some cs) :
    encode cs = bytes := by
  induction bytes using units.induct generalizing cs with
  | case1 =>
    rw [decode?_nil] at text
    cases text
    rfl
  | case2 b rest ih =>
    rw [decode?, units, List.mapM_cons] at text
    obtain ⟨c, first, text⟩ := Option.bind_eq_some_iff.mp text
    obtain ⟨more, others, same⟩ := Option.bind_eq_some_iff.mp text
    cases same
    have after := ih others
    have read := encodeChar_of_unit (Prod.ext first rfl : unit b rest = (some c, (unit b rest).2))
    rw [encode, List.flatMap_cons, ← read, ← after]
    rfl

theorem decode?_eq_some_iff {bytes : List UInt8} {cs : List Char} :
    decode? bytes = some cs ↔ encode cs = bytes := by
  constructor
  · exact encode_of_decode?
  · rintro rfl
    rw [decode?, units_encode, List.mapM_map]
    induction cs with
    | nil => rfl
    | cons c cs ih =>
      rw [List.mapM_cons, ih]
      rfl

theorem encode_inj {cs ds : List Char} (same : encode cs = encode ds) : cs = ds :=
  Option.some.inj ((decode?_eq_some_iff.mpr same).symm.trans (decode?_eq_some_iff.mpr rfl))

theorem isSome_decode?_iff {bytes : List UInt8} :
    (decode? bytes).isSome = true ↔ ∃ s : String, encodeText s = bytes := by
  constructor
  · intro text
    obtain ⟨cs, text⟩ := Option.isSome_iff_exists.mp text
    refine ⟨String.ofList cs, ?_⟩
    rw [encodeText, String.toList_ofList]
    exact encode_of_decode? text
  · rintro ⟨s, rfl⟩
    exact Option.isSome_iff_exists.mpr ⟨s.toList, decode?_eq_some_iff.mpr rfl⟩

theorem encode_append (cs ds : List Char) : encode (cs ++ ds) = encode cs ++ encode ds :=
  List.flatMap_append

theorem encodeText_append (s t : String) : encodeText (s ++ t) = encodeText s ++ encodeText t := by
  rw [encodeText, String.toList_append]
  exact encode_append _ _

theorem encodeText_inj {s t : String} (same : encodeText s = encodeText t) : s = t :=
  String.toList_inj.mp (encode_inj same)

/-- A byte that is a character of its own stands for that character alone. -/
theorem mem_encode_iff {b : UInt8} (low : b < 0x80) {cs : List Char} :
    b ∈ encode cs ↔ Char.ofNat b.toNat ∈ cs := by
  constructor
  · intro mem
    obtain ⟨front, back, whole⟩ := List.append_of_mem mem
    have text := decode?_eq_some_iff.mpr whole
    rw [decode?_append low] at text
    obtain ⟨fs, _, text⟩ := Option.bind_eq_some_iff.mp text
    obtain ⟨bs, _, rfl⟩ := Option.map_eq_some_iff.mp text
    simp
  · intro mem
    have single : [b] = String.utf8EncodeChar (Char.ofNat b.toNat) := by
      have read := encodeChar_of_unit (unit_low low [])
      rw [List.append_nil] at read
      exact read.symm
    rw [encode, List.mem_flatMap]
    exact ⟨_, mem, single ▸ List.mem_singleton.mpr rfl⟩

end SceneGpu.Utf8
