import Mathlib.Algebra.Group.Nat.Defs
import SceneGpu.Bytecode.Declaration
/-!
The language of bytecode. Words are a header and then instructions, one behind the other, each as long
as it says and with the operands its opcode needs; the first instruction that is not decides the fault.
-/
namespace SceneGpu.Bytecode

def Instruction.Complete (i : Instruction) : Prop :=
  ∀ least, minOperands i.opcode = some least → least ≤ i.operands.length

instance (i : Instruction) : Decidable i.Complete :=
  decidable_of_iff ((minOperands i.opcode).all fun least => decide (least ≤ i.operands.length)) (by
    unfold Instruction.Complete
    cases minOperands i.opcode <;> simp)

inductive Splits : List UInt32 → List Instruction → Prop
  | nil : Splits [] []
  | cons {header : UInt32} {operands rest : List UInt32} {is : List Instruction}
      (counts : (header >>> 16).toNat = operands.length + 1) (more : Splits rest is) :
      Splits (header :: (operands ++ rest)) (⟨header &&& 0xffff, operands⟩ :: is)

theorem Splits.unique {words : List UInt32} {is others : List Instruction} (split : Splits words is)
    (other : Splits words others) : is = others := by
  induction split generalizing others with
  | nil =>
    cases other
    rfl
  | @cons header operands rest is counts _ ih =>
    generalize words_eq : header :: (operands ++ rest) = words at other
    cases other with
    | nil => cases words_eq
    | @cons _ operands' rest' is' counts' more =>
      obtain ⟨rfl, tails⟩ := List.cons.inj words_eq
      have lengths : operands.length = operands'.length := by omega
      obtain ⟨rfl, rfl⟩ := List.append_inj tails lengths
      rw [ih more]

theorem Splits.operands_lt {words : List UInt32} {is : List Instruction} (split : Splits words is) :
    ∀ i ∈ is, i.operands.length + 1 < 2 ^ 16 := by
  induction split with
  | nil => simp
  | @cons header operands rest is counts _ ih =>
    intro i mem
    rcases List.mem_cons.mp mem with rfl | mem
    · have few := header.toNat_lt
      rw [UInt32.toNat_shiftRight, Nat.shiftRight_eq_div_pow] at counts
      have places : (16 : UInt32).toNat % 32 = 16 := rfl
      rw [places] at counts
      change operands.length + 1 < 2 ^ 16
      omega
    · exact ih i mem

/-- Words that start with no instruction, or with one that lacks operands, and the fault of that. -/
inductive Offends (offset : Nat) : List UInt32 → Fault → Prop
  | unfit {header : UInt32} {rest : List UInt32}
      (counts : (header >>> 16).toNat = 0 ∨ rest.length + 1 < (header >>> 16).toNat) :
      Offends offset (header :: rest) (.badInstruction offset (header >>> 16).toNat)
  | lacking {header : UInt32} {operands rest : List UInt32}
      (counts : (header >>> 16).toNat = operands.length + 1)
      (lacks : ¬ Instruction.Complete ⟨header &&& 0xffff, operands⟩) :
      Offends offset (header :: (operands ++ rest)) (.missingOperands offset (header &&& 0xffff))

theorem checkOperands_complete {i : Instruction} (offset : Nat) (complete : i.Complete) :
    checkOperands offset i = .ok () := by
  unfold checkOperands
  split
  · rename_i least eq
    rw [if_neg (Nat.not_lt.mpr (complete least eq))]
  · rfl

theorem checkOperands_lacking {i : Instruction} (offset : Nat) (lacks : ¬ i.Complete) :
    checkOperands offset i = .error (.missingOperands offset i.opcode) := by
  unfold checkOperands
  split
  · rename_i least eq
    have few : i.operands.length < least := by
      rw [← Nat.not_le]
      intro enough
      refine lacks fun other same => ?_
      obtain rfl : least = other := Option.some.inj (eq.symm.trans same)
      exact enough
    rw [if_pos few]
  · rename_i eq
    refine absurd (fun least same => ?_) lacks
    rw [eq] at same
    cases same

theorem Declarations.add_foreign {i : Instruction} (foreign : minOperands i.opcode = none)
    (m : Declarations) : m.add i = m := by
  unfold add
  split
  all_goals first
    | rfl
    | rename_i opcode _
      simp [minOperands, opcode] at foreign

theorem addInstructions_nil (offset : Nat) (m : Declarations) : addInstructions offset m [] = .ok m := by
  rw [addInstructions]

theorem addInstructions_cons {header : UInt32} {operands : List UInt32}
    (counts : (header >>> 16).toNat = operands.length + 1) (offset : Nat) (m : Declarations)
    (rest : List UInt32) :
    addInstructions offset m (header :: (operands ++ rest)) =
      match checkOperands offset ⟨header &&& 0xffff, operands⟩ with
      | .error e => .error e
      | .ok () => addInstructions (offset + (operands.length + 1))
          (m.add ⟨header &&& 0xffff, operands⟩) rest := by
  have fits : ¬ ((header >>> 16).toNat = 0 ∨
      (operands ++ rest).length + 1 < (header >>> 16).toNat) := by
    rw [counts, List.length_append]
    omega
  have turn := addInstructions.eq_def offset m (header :: (operands ++ rest))
  dsimp only at turn
  rw [if_neg fits, counts, Nat.add_sub_cancel, List.take_left, List.drop_left] at turn
  exact turn

theorem addInstructions_splits {front : List UInt32} {is : List Instruction} (split : Splits front is)
    (complete : ∀ i ∈ is, i.Complete) (offset : Nat) (m : Declarations) (rest : List UInt32) :
    addInstructions offset m (front ++ rest) =
      addInstructions (offset + front.length) (is.foldl Declarations.add m) rest := by
  induction split generalizing offset m with
  | nil => rfl
  | @cons header operands more is counts _ ih =>
    have first := checkOperands_complete offset (complete _ List.mem_cons_self)
    have others : ∀ i ∈ is, i.Complete := fun i mem => complete i (List.mem_cons_of_mem _ mem)
    rw [List.cons_append, List.append_assoc, addInstructions_cons counts, first]
    refine (ih others _ _).trans ?_
    congr 1
    simp
    omega

theorem addInstructions_offends {offset : Nat} {words : List UInt32} {e : Fault}
    (offends : Offends offset words e) (m : Declarations) :
    addInstructions offset m words = .error e := by
  cases offends with
  | unfit counts =>
    rw [addInstructions]
    exact if_pos counts
  | lacking counts lacks => rw [addInstructions_cons counts, checkOperands_lacking offset lacks]

theorem exists_operands {header : UInt32} {tail : List UInt32}
    (fits : ¬ ((header >>> 16).toNat = 0 ∨ tail.length + 1 < (header >>> 16).toNat)) :
    ∃ operands more, tail = operands ++ more ∧ (header >>> 16).toNat = operands.length + 1 := by
  refine ⟨tail.take ((header >>> 16).toNat - 1), tail.drop ((header >>> 16).toNat - 1),
    (List.take_append_drop _ _).symm, ?_⟩
  rw [List.length_take]
  omega

/-- All words are instructions that lack nothing, up to the end or up to the first that offends. -/
theorem splits_or_offends (words : List UInt32) :
    ∃ front is rest, words = front ++ rest ∧ Splits front is ∧ (∀ i ∈ is, i.Complete) ∧
      (rest = [] ∨ ∀ offset, ∃ e, Offends offset rest e) := by
  induction size : words.length using Nat.strongRecOn generalizing words with
  | ind size ih =>
    cases words with
    | nil => exact ⟨[], [], [], rfl, .nil, by simp, .inl rfl⟩
    | cons header tail =>
      by_cases unfit : (header >>> 16).toNat = 0 ∨ tail.length + 1 < (header >>> 16).toNat
      · exact ⟨[], [], header :: tail, rfl, .nil, by simp, .inr fun offset => ⟨_, .unfit unfit⟩⟩
      obtain ⟨operands, more, rfl, counts⟩ := exists_operands unfit
      by_cases complete : Instruction.Complete ⟨header &&& 0xffff, operands⟩
      · obtain ⟨front, is, rest, rfl, splits, others, ends⟩ :=
          ih more.length (by simp at size; omega) more rfl
        refine ⟨header :: (operands ++ front), ⟨header &&& 0xffff, operands⟩ :: is, rest, ?_,
          .cons counts splits, ?_, ends⟩
        · simp
        · intro i mem
          rcases List.mem_cons.mp mem with rfl | mem
          · exact complete
          · exact others i mem
      · exact ⟨[], [], _, rfl, .nil, by simp, .inr fun offset => ⟨_, .lacking counts complete⟩⟩

/-- Before the words that offend, instructions that lack nothing. -/
def FirstFault (offset : Nat) (words : List UInt32) (e : Fault) : Prop :=
  ∃ front is rest, words = front ++ rest ∧ Splits front is ∧ (∀ i ∈ is, i.Complete) ∧
    Offends (offset + front.length) rest e

theorem addInstructions_cases (offset : Nat) (m : Declarations) (words : List UInt32) :
    (∃ is, Splits words is ∧ (∀ i ∈ is, i.Complete) ∧
      addInstructions offset m words = .ok (is.foldl Declarations.add m)) ∨
    ∃ e, FirstFault offset words e ∧ addInstructions offset m words = .error e := by
  obtain ⟨front, is, rest, rfl, splits, complete, rfl | offends⟩ := splits_or_offends words
  · refine .inl ⟨is, by rwa [List.append_nil], complete, ?_⟩
    rw [addInstructions_splits splits complete, addInstructions_nil]
  · obtain ⟨e, offends⟩ := offends (offset + front.length)
    refine .inr ⟨e, ⟨front, is, rest, rfl, splits, complete, offends⟩, ?_⟩
    rw [addInstructions_splits splits complete, addInstructions_offends offends]

theorem addInstructions_ok_iff {offset : Nat} {m d : Declarations} {words : List UInt32} :
    addInstructions offset m words = .ok d ↔
      ∃ is, Splits words is ∧ (∀ i ∈ is, i.Complete) ∧ is.foldl Declarations.add m = d := by
  constructor
  · intro ok
    rcases addInstructions_cases offset m words with ⟨is, splits, complete, eq⟩ | ⟨e, _, eq⟩
    · exact ⟨is, splits, complete, Except.ok.inj (eq.symm.trans ok)⟩
    · rw [eq] at ok
      cases ok
  · rintro ⟨is, splits, complete, rfl⟩
    have run := addInstructions_splits splits complete offset m []
    rwa [List.append_nil, addInstructions_nil] at run

theorem addInstructions_error_iff {offset : Nat} {m : Declarations} {words : List UInt32} {e : Fault} :
    addInstructions offset m words = .error e ↔ FirstFault offset words e := by
  constructor
  · intro fails
    rcases addInstructions_cases offset m words with ⟨is, _, _, eq⟩ | ⟨other, first, eq⟩
    · rw [eq] at fails
      cases fails
    · obtain rfl : other = e := Except.error.inj (eq.symm.trans fails)
      exact first
  · rintro ⟨front, is, rest, rfl, splits, complete, offends⟩
    rw [addInstructions_splits splits complete, addInstructions_offends offends]

structure Instruction.Encodable (i : Instruction) : Prop where
  opcode : i.opcode.toNat < 2 ^ 16
  operands : i.operands.length ≤ 65534

instance (i : Instruction) : Decidable i.Encodable :=
  decidable_of_iff (i.opcode.toNat < 2 ^ 16 ∧ i.operands.length ≤ 65534)
    ⟨fun fits => ⟨fits.1, fits.2⟩, fun fits => ⟨fits.opcode, fits.operands⟩⟩

theorem encodedHeader_toNat {n : Nat} {opcode : UInt32} (few : n < 2 ^ 16)
    (small : opcode.toNat < 2 ^ 16) :
    (UInt32.ofNat n <<< 16 ||| opcode).toNat = n * 2 ^ 16 + opcode.toNat := by
  have shifted : (UInt32.ofNat n <<< 16).toNat = n <<< 16 := by
    simp [UInt32.toNat_shiftLeft, Nat.shiftLeft_eq]
    omega
  rw [UInt32.toNat_or, shifted, ← Nat.shiftLeft_add_eq_or_of_lt small, Nat.shiftLeft_eq]

theorem encodedHeader_count {n : Nat} {opcode : UInt32} (few : n < 2 ^ 16)
    (small : opcode.toNat < 2 ^ 16) :
    ((UInt32.ofNat n <<< 16 ||| opcode) >>> 16).toNat = n := by
  rw [UInt32.toNat_shiftRight, encodedHeader_toNat few small]
  simp [Nat.shiftRight_eq_div_pow]
  omega

theorem encodedHeader_opcode {n : Nat} {opcode : UInt32} (few : n < 2 ^ 16)
    (small : opcode.toNat < 2 ^ 16) :
    (UInt32.ofNat n <<< 16 ||| opcode) &&& 0xffff = opcode := by
  rw [← UInt32.toNat_inj, UInt32.toNat_and, encodedHeader_toNat few small]
  have mask : (0xffff : UInt32).toNat = 2 ^ 16 - 1 := rfl
  rw [mask, Nat.and_two_pow_sub_one_eq_mod]
  omega

theorem splits_encode {is : List Instruction} (encodable : ∀ i ∈ is, i.Encodable) :
    Splits (is.flatMap Instruction.encode) is := by
  induction is with
  | nil => exact .nil
  | cons i is ih =>
    obtain ⟨opcode, operands⟩ := i
    have fits := encodable _ List.mem_cons_self
    have few : operands.length + 1 < 2 ^ 16 :=
      Nat.lt_of_le_of_lt (Nat.succ_le_succ fits.operands) (by decide)
    have more := ih fun j mem => encodable j (List.mem_cons_of_mem _ mem)
    have head := @Splits.cons _ operands _ _ (encodedHeader_count few fits.opcode) more
    rw [encodedHeader_opcode few fits.opcode] at head
    exact head

/-- A header that is long enough, with the magic number in front. -/
structure Headed (words : List UInt32) : Prop where
  long : headerWords ≤ words.length
  magic : words.head? = some magic

theorem parse_headed {words : List UInt32} (headed : Headed words) :
    parse words = addInstructions headerWords {} (words.drop headerWords) := by
  have first : words.headD 0 = magic := by rw [List.headD_eq_head?_getD, headed.magic]; rfl
  unfold parse
  rw [if_neg (Nat.not_lt.mpr headed.long)]
  dsimp only
  rw [if_neg fun other => other first]

theorem parse_short {words : List UInt32} (short : words.length < headerWords) :
    parse words = .error (.truncated words.length) := by
  unfold parse
  rw [if_pos short]

theorem parse_unmagic {words : List UInt32} {first : UInt32} (long : headerWords ≤ words.length)
    (starts : words.head? = some first) (other : first ≠ magic) :
    parse words = .error (.badMagic first) := by
  have head : words.headD 0 = first := by rw [List.headD_eq_head?_getD, starts]; rfl
  unfold parse
  rw [if_neg (Nat.not_lt.mpr long)]
  dsimp only
  rw [head, if_pos other]

theorem header_cases (words : List UInt32) :
    words.length < headerWords ∨
      (∃ first, headerWords ≤ words.length ∧ words.head? = some first ∧ first ≠ magic) ∨
      Headed words := by
  by_cases short : words.length < headerWords
  · exact .inl short
  have long := Nat.not_lt.mp short
  cases words with
  | nil => exact absurd (by decide) short
  | cons first rest =>
    by_cases eq : first = magic
    · exact .inr (.inr ⟨long, by rw [eq]; rfl⟩)
    · exact .inr (.inl ⟨first, long, rfl, eq⟩)

inductive Refused (words : List UInt32) : Fault → Prop
  | truncated (short : words.length < headerWords) : Refused words (.truncated words.length)
  | badMagic {first : UInt32} (long : headerWords ≤ words.length)
      (starts : words.head? = some first) (other : first ≠ magic) : Refused words (.badMagic first)
  | instruction {e : Fault} (headed : Headed words)
      (fault : FirstFault headerWords (words.drop headerWords) e) : Refused words e

theorem parse_ok_iff {words : List UInt32} {d : Declarations} :
    parse words = .ok d ↔ Headed words ∧ ∃ is, Splits (words.drop headerWords) is ∧
      (∀ i ∈ is, i.Complete) ∧ is.foldl Declarations.add {} = d := by
  rcases header_cases words with short | ⟨first, long, starts, other⟩ | headed
  · rw [parse_short short]
    constructor
    · intro impossible
      cases impossible
    · rintro ⟨headed, _⟩
      exact absurd headed.long (Nat.not_le.mpr short)
  · rw [parse_unmagic long starts other]
    constructor
    · intro impossible
      cases impossible
    · rintro ⟨headed, _⟩
      exact absurd (Option.some.inj (starts.symm.trans headed.magic)) other
  · rw [parse_headed headed, addInstructions_ok_iff]
    exact ⟨fun ok => ⟨headed, ok⟩, fun ok => ok.2⟩

theorem parse_splits {words : List UInt32} {d : Declarations} {is : List Instruction}
    (parsed : parse words = .ok d) (split : Splits (words.drop headerWords) is) :
    is.foldl Declarations.add {} = d := by
  obtain ⟨_, others, other, _, rfl⟩ := parse_ok_iff.mp parsed
  rw [split.unique other]

theorem parse_error_iff {words : List UInt32} {e : Fault} :
    parse words = .error e ↔ Refused words e := by
  constructor
  · intro fails
    rcases header_cases words with short | ⟨first, long, starts, other⟩ | headed
    · rw [parse_short short] at fails
      cases fails
      exact .truncated short
    · rw [parse_unmagic long starts other] at fails
      cases fails
      exact .badMagic long starts other
    · rw [parse_headed headed, addInstructions_error_iff] at fails
      exact .instruction headed fails
  · intro refused
    cases refused with
    | truncated short => exact parse_short short
    | badMagic long starts other => exact parse_unmagic long starts other
    | instruction headed fault => rw [parse_headed headed, addInstructions_error_iff.mpr fault]

theorem parse_encode {header : List UInt32} {is : List Instruction} (headed : Headed header)
    (exact : header.length = headerWords) (encodable : ∀ i ∈ is, i.Encodable)
    (complete : ∀ i ∈ is, i.Complete) :
    parse (header ++ is.flatMap Instruction.encode) = .ok (is.foldl Declarations.add {}) := by
  rw [parse_ok_iff]
  refine ⟨⟨?_, ?_⟩, is, ?_, complete, rfl⟩
  · rw [List.length_append, exact]
    exact Nat.le_add_right _ _
  · rw [List.head?_append, headed.magic]
    rfl
  · rw [← exact, List.drop_left]
    exact splits_encode encodable

end SceneGpu.Bytecode
