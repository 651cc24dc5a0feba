import Mathlib.Algebra.Group.Nat.Defs
import SceneGpu.Bytecode.Word
/-!
Words and the two orders of their bytes. What is read is the words that were written, in whichever
order, and the words read, written in the order found, are the bytes there were.
-/
namespace SceneGpu.Bytecode

theorem toNat_ofBytesLE (a b c d : UInt8) :
    (ofBytesLE a b c d).toNat =
      a.toNat + 2 ^ 8 * b.toNat + 2 ^ 16 * c.toNat + 2 ^ 24 * d.toNat := by
  have ha := a.toNat_lt
  have hb := b.toNat_lt
  have hc := c.toNat_lt
  have hd := d.toNat_lt
  have second : b.toNat <<< 8 % 2 ^ 32 = 2 ^ 8 * b.toNat := by
    rw [Nat.shiftLeft_eq, Nat.mod_eq_of_lt (by omega), Nat.mul_comm]
  have third : c.toNat <<< 16 % 2 ^ 32 = 2 ^ 16 * c.toNat := by
    rw [Nat.shiftLeft_eq, Nat.mod_eq_of_lt (by omega), Nat.mul_comm]
  have fourth : d.toNat <<< 24 % 2 ^ 32 = 2 ^ 24 * d.toNat := by
    rw [Nat.shiftLeft_eq, Nat.mod_eq_of_lt (by omega), Nat.mul_comm]
  simp only [ofBytesLE, UInt32.toNat_or, UInt32.toNat_shiftLeft, UInt8.toNat_toUInt32,
    UInt32.reduceToNat, Nat.reduceMod, second, third, fourth]
  -- each byte lies above the bits of those before it
  rw [Nat.or_comm a.toNat, ← Nat.two_pow_add_eq_or_of_lt ha, Nat.or_comm (_ + _),
    ← Nat.two_pow_add_eq_or_of_lt (by omega), Nat.or_comm (_ + _),
    ← Nat.two_pow_add_eq_or_of_lt (by omega)]
  omega

theorem toNat_bytes (w : UInt32) :
    w.toUInt8.toNat = w.toNat % 2 ^ 8 ∧ (w >>> 8).toUInt8.toNat = w.toNat / 2 ^ 8 % 2 ^ 8 ∧
      (w >>> 16).toUInt8.toNat = w.toNat / 2 ^ 16 % 2 ^ 8 ∧
      (w >>> 24).toUInt8.toNat = w.toNat / 2 ^ 24 % 2 ^ 8 := by
  simp [Nat.shiftRight_eq_div_pow]

theorem ofBytesLE_bytes (w : UInt32) :
    ofBytesLE w.toUInt8 (w >>> 8).toUInt8 (w >>> 16).toUInt8 (w >>> 24).toUInt8 = w := by
  obtain ⟨first, second, third, fourth⟩ := toNat_bytes w
  have hw := w.toNat_lt
  apply UInt32.toNat_inj.mp
  rw [toNat_ofBytesLE, first, second, third, fourth]
  omega

theorem bytesLE_ofBytesLE (a b c d : UInt8) : bytesLE (ofBytesLE a b c d) = [a, b, c, d] := by
  obtain ⟨first, second, third, fourth⟩ := toNat_bytes (ofBytesLE a b c d)
  have ha := a.toNat_lt
  have hb := b.toNat_lt
  have hc := c.toNat_lt
  have hd := d.toNat_lt
  rw [toNat_ofBytesLE] at first second third fourth
  simp only [bytesLE, List.cons.injEq, and_true, ← UInt8.toNat_inj]
  omega

theorem swapBytes_ofBytesLE (a b c d : UInt8) : swapBytes (ofBytesLE a b c d) = ofBytesLE d c b a := by
  have bytes := bytesLE_ofBytesLE a b c d
  simp only [bytesLE, List.cons.injEq, and_true] at bytes
  obtain ⟨first, second, third, fourth⟩ := bytes
  rw [swapBytes, first, second, third, fourth]

theorem swapBytes_swapBytes (w : UInt32) : swapBytes (swapBytes w) = w := by
  have inner : swapBytes w = ofBytesLE (w >>> 24).toUInt8 (w >>> 16).toUInt8 (w >>> 8).toUInt8
    w.toUInt8 := rfl
  rw [inner, swapBytes_ofBytesLE, ofBytesLE_bytes]

theorem length_encodeLE (words : List UInt32) : (encodeLE words).length = 4 * words.length := by
  induction words with
  | nil => rfl
  | cons w rest ih =>
    change (bytesLE w ++ encodeLE rest).length = _
    rw [List.length_append, ih, List.length_cons]
    change 4 + _ = _
    omega

theorem groupLE_encodeLE (words : List UInt32) : groupLE (encodeLE words) = words := by
  induction words with
  | nil => rfl
  | cons w rest ih =>
    change ofBytesLE w.toUInt8 (w >>> 8).toUInt8 (w >>> 16).toUInt8 (w >>> 24).toUInt8 ::
      groupLE (encodeLE rest) = _
    rw [ofBytesLE_bytes, ih]

theorem encodeLE_groupLE {bytes : List UInt8} (whole : bytes.length % 4 = 0) :
    encodeLE (groupLE bytes) = bytes := by
  fun_induction groupLE bytes with
  | case1 a b c d rest ih =>
    change bytesLE (ofBytesLE a b c d) ++ encodeLE (groupLE rest) = _
    have fewer : rest.length % 4 = 0 := by
      simp only [List.length_cons] at whole
      omega
    rw [bytesLE_ofBytesLE, ih fewer]
    rfl
  | case2 bytes short =>
    match bytes with
    | [] => rfl
    | [_] => simp at whole
    | [_, _] => simp at whole
    | [_, _, _] => simp at whole
    | a :: b :: c :: d :: rest => exact absurd rfl (short a b c d rest)

inductive ByteOrder where
  | little
  | big
deriving DecidableEq, Repr

namespace ByteOrder

def encode : ByteOrder → List UInt32 → List UInt8
  | little => encodeLE
  | big => encodeBE

def firstWord? (order : ByteOrder) : List UInt8 → Option UInt32
  | a :: b :: c :: d :: _ =>
    match order with
    | little => some (ofBytesLE a b c d)
    | big => some (ofBytesLE d c b a)
  | _ => none

/-- Read in this order, the bytes begin with the magic number. -/
def Marks (order : ByteOrder) (bytes : List UInt8) : Prop := order.firstWord? bytes = some magic

instance (order : ByteOrder) (bytes : List UInt8) : Decidable (order.Marks bytes) :=
  inferInstanceAs (Decidable (_ = _))

def turn : ByteOrder → UInt32 → UInt32
  | little => id
  | big => swapBytes

variable (order : ByteOrder) (words : List UInt32) {bytes : List UInt8}

theorem turn_turn (w : UInt32) : order.turn (order.turn w) = w := by
  cases order with
  | little => rfl
  | big => exact swapBytes_swapBytes w

theorem map_turn_twice : (words.map order.turn).map order.turn = words := by
  rw [List.map_map, show order.turn ∘ order.turn = id from funext order.turn_turn, List.map_id]

theorem encode_eq : order.encode words = encodeLE (words.map order.turn) := by
  cases order with
  | little => exact congrArg encodeLE (List.map_id words).symm
  | big =>
    have turned : bytesBE = fun w => bytesLE (swapBytes w) := by
      funext w
      rw [swapBytes, bytesLE_ofBytesLE]
      rfl
    change words.flatMap bytesBE = _
    rw [turned, encodeLE, List.flatMap_map]
    rfl

theorem length_encode : (order.encode words).length = 4 * words.length := by
  rw [encode_eq, length_encodeLE, List.length_map]

theorem groupLE_encode : groupLE (order.encode words) = words.map order.turn := by
  rw [encode_eq, groupLE_encodeLE]

theorem encode_groupLE (whole : bytes.length % 4 = 0) :
    order.encode ((groupLE bytes).map order.turn) = bytes := by
  rw [encode_eq, map_turn_twice, encodeLE_groupLE whole]

theorem firstWord?_eq (bytes : List UInt8) :
    order.firstWord? bytes = (groupLE bytes).head?.map order.turn := by
  match bytes with
  | [] => rfl
  | [_] => rfl
  | [_, _] => rfl
  | [_, _, _] => rfl
  | a :: b :: c :: d :: _ =>
    cases order with
    | little => rfl
    | big => exact congrArg some (swapBytes_ofBytesLE a b c d).symm

theorem firstWord?_encode : order.firstWord? (order.encode words) = words.head? := by
  rw [firstWord?_eq, groupLE_encode, ← List.head?_map, map_turn_twice]

theorem turn_big_magic : big.turn magic ≠ magic := by decide

variable {order}

theorem marks_iff (order : ByteOrder) {w : UInt32} {rest : List UInt32}
    (grouped : groupLE bytes = w :: rest) : order.Marks bytes ↔ order.turn w = magic := by
  rw [Marks, firstWord?_eq, grouped]
  exact Option.some_inj

theorem Marks.unique {other : ByteOrder} (one : order.Marks bytes) (two : other.Marks bytes) :
    order = other := by
  have found := one
  rw [Marks, firstWord?_eq, Option.map_eq_some_iff] at found
  obtain ⟨w, first, mine⟩ := found
  obtain ⟨rest, grouped⟩ := List.head?_eq_some_iff.mp first
  have theirs := (other.marks_iff grouped).mp two
  -- one order leaves the word as it is, and the other one does not turn the magic number into itself
  match order, other with
  | little, little => rfl
  | big, big => rfl
  | little, big =>
    obtain rfl : w = magic := mine
    exact absurd theirs turn_big_magic
  | big, little =>
    obtain rfl : w = magic := theirs
    exact absurd mine turn_big_magic

end ByteOrder

section reading

variable {bytes : List UInt8} {words : List UInt32}

theorem wordsOfBytes_cut (cut : ¬ bytes.length % 4 = 0) :
    wordsOfBytes bytes = .error (.unalignedLength bytes.length) :=
  if_pos cut

theorem wordsOfBytes_marked {order : ByteOrder} (whole : bytes.length % 4 = 0)
    (marked : order.Marks bytes) : wordsOfBytes bytes = .ok ((groupLE bytes).map order.turn) := by
  have found := marked
  rw [ByteOrder.Marks, order.firstWord?_eq, Option.map_eq_some_iff] at found
  obtain ⟨w, first, turned⟩ := found
  obtain ⟨rest, grouped⟩ := List.head?_eq_some_iff.mp first
  simp only [wordsOfBytes, whole, grouped, ne_eq, not_true_eq_false, ↓reduceIte]
  cases order with
  | little => exact (if_pos turned).trans (congrArg Except.ok (List.map_id _).symm)
  | big =>
    have other : w ≠ magic := by
      intro straight
      cases marked.unique ((ByteOrder.little.marks_iff grouped).mpr straight)
    rw [if_neg other]
    exact if_pos turned

theorem wordsOfBytes_unmarked {w : UInt32} {rest : List UInt32} (whole : bytes.length % 4 = 0)
    (grouped : groupLE bytes = w :: rest) (unmarked : ∀ order : ByteOrder, ¬ order.Marks bytes) :
    wordsOfBytes bytes = .error (.badMagic w) := by
  have straight : w ≠ magic := mt (ByteOrder.little.marks_iff grouped).mpr (unmarked _)
  have swapped : swapBytes w ≠ magic :=
    mt (ByteOrder.big.marks_iff grouped).mpr (unmarked _)
  simp only [wordsOfBytes, whole, grouped, ne_eq, not_true_eq_false, ↓reduceIte, straight, swapped]

theorem marks_encode (order : ByteOrder) (headed : words.head? = some magic) :
    order.Marks (order.encode words) :=
  (order.firstWord?_encode words).trans headed

theorem wordsOfBytes_encode (order : ByteOrder) (headed : words.head? = some magic) :
    wordsOfBytes (order.encode words) = .ok words := by
  have whole : (order.encode words).length % 4 = 0 := by
    rw [order.length_encode]
    omega
  rw [wordsOfBytes_marked whole (marks_encode order headed), order.groupLE_encode,
    order.map_turn_twice]

/-- What can be read is words behind the magic number, written in one of the orders. -/
theorem wordsOfBytes_ok_iff : wordsOfBytes bytes = .ok words ↔
    words.head? = some magic ∧ ∃ order : ByteOrder, bytes = order.encode words := by
  constructor
  · intro read
    by_cases whole : bytes.length % 4 = 0
    · by_cases found : ∃ order : ByteOrder, order.Marks bytes
      · obtain ⟨order, marked⟩ := found
        rw [wordsOfBytes_marked whole marked] at read
        cases read
        refine ⟨?_, order, (order.encode_groupLE whole).symm⟩
        rw [List.head?_map, ← order.firstWord?_eq]
        exact marked
      · cases grouped : groupLE bytes with
        | nil => simp [wordsOfBytes, whole, grouped] at read
        | cons w rest =>
          rw [wordsOfBytes_unmarked whole grouped (not_exists.mp found)] at read
          cases read
    · rw [wordsOfBytes_cut whole] at read
      cases read
  · rintro ⟨headed, order, rfl⟩
    exact wordsOfBytes_encode order headed

theorem readable_iff : (∃ words, wordsOfBytes bytes = .ok words) ↔
    0 < bytes.length ∧ 4 ∣ bytes.length ∧ ∃ order : ByteOrder, order.Marks bytes := by
  constructor
  · rintro ⟨words, read⟩
    obtain ⟨headed, order, rfl⟩ := wordsOfBytes_ok_iff.mp read
    obtain ⟨rest, rfl⟩ := List.head?_eq_some_iff.mp headed
    rw [order.length_encode, List.length_cons]
    exact ⟨by omega, Nat.dvd_mul_right 4 _, order, marks_encode order headed⟩
  · rintro ⟨_, whole, order, marked⟩
    exact ⟨_, wordsOfBytes_marked (Nat.mod_eq_zero_of_dvd whole) marked⟩

theorem encode_of_marks {order : ByteOrder} (read : wordsOfBytes bytes = .ok words)
    (marked : order.Marks bytes) : order.encode words = bytes := by
  obtain ⟨headed, other, rfl⟩ := wordsOfBytes_ok_iff.mp read
  obtain rfl := marked.unique (marks_encode other headed)
  rfl

/-- The fault of bytes that are no words. -/
inductive Unreadable (bytes : List UInt8) : Fault → Prop
  | cut (left : ¬ 4 ∣ bytes.length) : Unreadable bytes (.unalignedLength bytes.length)
  | empty (none : bytes = []) : Unreadable bytes (.truncated 0)
  | unmarked {w : UInt32} (whole : 4 ∣ bytes.length)
      (first : ByteOrder.little.firstWord? bytes = some w)
      (none : ∀ order : ByteOrder, ¬ order.Marks bytes) : Unreadable bytes (.badMagic w)

theorem wordsOfBytes_error_iff {fault : Fault} :
    wordsOfBytes bytes = .error fault ↔ Unreadable bytes fault := by
  constructor
  · intro refused
    by_cases whole : bytes.length % 4 = 0
    · have unmarked : ∀ order : ByteOrder, ¬ order.Marks bytes := by
        intro order marked
        rw [wordsOfBytes_marked whole marked] at refused
        cases refused
      cases grouped : groupLE bytes with
      | nil =>
        have nothing : bytes = [] := by
          rw [← encodeLE_groupLE whole, grouped]
          rfl
        rw [nothing] at refused ⊢
        cases refused
        exact .empty rfl
      | cons w rest =>
        rw [wordsOfBytes_unmarked whole grouped unmarked] at refused
        cases refused
        refine .unmarked (Nat.dvd_of_mod_eq_zero whole) ?_ unmarked
        rw [ByteOrder.firstWord?_eq, grouped]
        rfl
    · rw [wordsOfBytes_cut whole] at refused
      cases refused
      exact .cut (mt Nat.mod_eq_zero_of_dvd whole)
  · intro unreadable
    cases unreadable with
    | cut left => exact wordsOfBytes_cut (mt Nat.dvd_of_mod_eq_zero left)
    | empty nothing =>
      subst nothing
      rfl
    | unmarked whole first unmarked =>
      rw [ByteOrder.firstWord?_eq, Option.map_eq_some_iff] at first
      obtain ⟨w, here, rfl⟩ := first
      obtain ⟨rest, grouped⟩ := List.head?_eq_some_iff.mp here
      exact wordsOfBytes_unmarked (Nat.mod_eq_zero_of_dvd whole) grouped unmarked

end reading

end SceneGpu.Bytecode
