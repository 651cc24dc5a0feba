import SceneGpu.Proofs.Bytecode.Grammar
/-!
Reading by offsets: each word, operand and slice is looked up by its place, and there is no result
where a place is out of range. It never is, and the result is the one of the plain reader.
-/
namespace SceneGpu.Bytecode

def slice? (words : List UInt32) (first last : Nat) : Option (List UInt32) :=
  if first ≤ last ∧ last ≤ words.length then some ((words.take last).drop first) else none

def sliceFrom? (words : List UInt32) (first : Nat) : Option (List UInt32) :=
  slice? words first words.length

def Declarations.addAt? (m : Declarations) (opcode : UInt32) (o : List UInt32) : Option Declarations :=
  match opcode.toNat with
  | 5 => do
    let text ← sliceFrom? o 1
    return { m with names := m.names.set (← o[0]?) (literalText text) }
  | 6 => do
    let text ← sliceFrom? o 2
    return { m with memberNames := m.memberNames.set (← o[0]?, ← o[1]?) (literalText text) }
  | 71 => do
    let id ← o[0]?
    let d := ((m.decorations id).getD {}).apply (← o[1]?) (← sliceFrom? o 2)
    return { m with decorations := m.decorations.set id d }
  | 72 => do
    let type ← o[0]?
    let member ← o[1]?
    let d := ((m.memberDecorations (type, member)).getD {}).apply (← o[2]?) (← sliceFrom? o 3)
    return { m with memberDecorations := m.memberDecorations.set (type, member) d }
  | 20 => do return m.setType (← o[0]?) .bool
  | 21 => do return m.setType (← o[0]?) (.int (← o[1]?))
  | 22 => do return m.setType (← o[0]?) (.float (← o[1]?))
  | 23 => do return m.setType (← o[0]?) (.vector (← o[1]?) (← o[2]?))
  | 24 => do return m.setType (← o[0]?) (.matrix (← o[1]?) (← o[2]?))
  | 25 => do return m.setType (← o[0]?) .image
  | 26 => do return m.setType (← o[0]?) .sampler
  | 27 => do return m.setType (← o[0]?) .sampledImage
  | 28 => do
    let length := (m.constants (← o[2]?)).getD 0
    return m.setType (← o[0]?) (.array (← o[1]?) length)
  | 29 => do return m.setType (← o[0]?) .runtimeArray
  | 30 => do return m.setType (← o[0]?) (.struct (← sliceFrom? o 1))
  | 32 => do return m.setType (← o[0]?) (.pointer (← o[2]?))
  | 43 => do return { m with constants := m.constants.set (← o[1]?) (← o[2]?) }
  | 59 => do return { m with globals := m.globals ++ [⟨← o[1]?, ← o[0]?, ← o[2]?⟩] }
  | 61 => do return m.readWhole (← o[2]?)
  | 63 => do return m.readWhole (← o[1]?)
  -- a chain may have no index
  | 65 => do return m.readChain (← o[2]?) o[3]?.toList
  | 66 => do return m.readChain (← o[2]?) o[3]?.toList
  | _ => some m

def decode? (offset : Nat) (m : Declarations) (i : Instruction) : Option (Except Fault Declarations) :=
  match checkOperands offset i with
  | .error e => some (.error e)
  | .ok () => (m.addAt? i.opcode i.operands).map .ok

def addFrom? (words : List UInt32) (offset : Nat) (m : Declarations) :
    Option (Except Fault Declarations) :=
  if offset < words.length then do
    let header ← words[offset]?
    let count := (header >>> 16).toNat
    if count = 0 ∨ words.length < offset + count then
      return .error (.badInstruction offset count)
    else
      let operands ← slice? words (offset + 1) (offset + count)
      match ← decode? offset m ⟨header &&& 0xffff, operands⟩ with
      | .error e => return .error e
      | .ok next => addFrom? words (offset + count) next
  else return .ok m
termination_by words.length - offset
decreasing_by omega

def parse? (words : List UInt32) : Option (Except Fault Declarations) := do
  if words.length < headerWords then return .error (.truncated words.length)
  else
    let first ← words[0]?
    if first ≠ magic then return .error (.badMagic first) else addFrom? words headerWords {}

theorem slice?_append (front middle back : List UInt32) :
    slice? (front ++ (middle ++ back)) front.length (front.length + middle.length) = some middle := by
  unfold slice?
  rw [if_pos (by simp)]
  simp [List.take_append]

theorem sliceFrom?_append (front back : List UInt32) :
    sliceFrom? (front ++ back) front.length = some back := by
  have all := slice?_append front back []
  rwa [List.append_nil, ← List.length_append] at all

/-- Of the indices of a chain only the first is looked at. -/
theorem readChain_first (m : Declarations) (base : UInt32) (indices : List UInt32) :
    m.readChain base indices.head?.toList = m.readChain base indices := by
  cases indices <;> rfl

theorem opcode_eq {opcode : UInt32} {n : Nat} (op : opcode.toNat = n) : opcode = UInt32.ofNat n := by
  rw [← op, UInt32.ofNat_toNat]

theorem addAt?_eq {m : Declarations} {i : Instruction} (complete : i.Complete) :
    m.addAt? i.opcode i.operands = some (m.add i) := by
  obtain ⟨opcode, o⟩ := i
  have enough : ∀ least, minOperands opcode = some least → least ≤ o.length := complete
  unfold Declarations.addAt?
  -- the opcodes fall into groups by how many operands they need, and whether they take the others
  split
  case h_5 op | h_10 op | h_11 op =>
    obtain rfl := opcode_eq op
    have := enough 1 rfl
    match o with
    | _ :: _ => rfl
  case h_1 op | h_15 op =>
    obtain rfl := opcode_eq op
    have := enough 1 rfl
    match o with
    | a :: rest =>
      rw [show sliceFrom? (a :: rest) 1 = some rest from sliceFrom?_append [a] rest]
      rfl
  case h_6 op | h_7 op | h_12 op | h_14 op | h_20 op =>
    obtain rfl := opcode_eq op
    have := enough 2 rfl
    match o with
    | _ :: _ :: _ => rfl
  case h_2 op | h_3 op =>
    obtain rfl := opcode_eq op
    have := enough 2 rfl
    match o with
    | a :: b :: rest =>
      rw [show sliceFrom? (a :: b :: rest) 2 = some rest from sliceFrom?_append [a, b] rest]
      rfl
  case h_8 op | h_9 op | h_13 op | h_16 op | h_17 op | h_18 op | h_19 op =>
    obtain rfl := opcode_eq op
    have := enough 3 rfl
    match o with
    | _ :: _ :: _ :: _ => rfl
  case h_4 op =>
    obtain rfl := opcode_eq op
    have := enough 3 rfl
    match o with
    | a :: b :: c :: rest =>
      rw [show sliceFrom? (a :: b :: c :: rest) 3 = some rest from sliceFrom?_append [a, b, c] rest]
      rfl
  case h_21 op | h_22 op =>
    obtain rfl := opcode_eq op
    have := enough 3 rfl
    match o with
    | _ :: _ :: base :: indices =>
      have first := readChain_first m base indices
      rw [List.head?_eq_getElem?] at first
      exact congrArg some first
  case h_23 =>
    unfold Declarations.add
    split
    all_goals first
      | rfl
      | contradiction

theorem decode?_complete {offset : Nat} {m : Declarations} {i : Instruction} (complete : i.Complete) :
    decode? offset m i = some (.ok (m.add i)) := by
  unfold decode?
  rw [checkOperands_complete offset complete, addAt?_eq complete]
  rfl

theorem decode?_lacking {offset : Nat} {m : Declarations} {i : Instruction} (lacks : ¬ i.Complete) :
    decode? offset m i = some (.error (.missingOperands offset i.opcode)) := by
  unfold decode?
  rw [checkOperands_lacking offset lacks]

theorem addFrom?_end (words : List UInt32) (m : Declarations) :
    addFrom? words words.length m = some (.ok m) := by
  rw [addFrom?, if_neg (Nat.lt_irrefl _)]
  rfl

section turn

variable {front tail : List UInt32} {header : UInt32}

theorem addFrom?_unfit (m : Declarations)
    (unfit : (header >>> 16).toNat = 0 ∨ tail.length + 1 < (header >>> 16).toNat) :
    addFrom? (front ++ header :: tail) front.length m =
      some (.error (.badInstruction front.length (header >>> 16).toNat)) := by
  have inside : front.length < (front ++ header :: tail).length := by simp
  have out : (header >>> 16).toNat = 0 ∨
      (front ++ header :: tail).length < front.length + (header >>> 16).toNat := by
    rw [List.length_append, List.length_cons]
    omega
  rw [addFrom?, if_pos inside, List.getElem?_append_right (Nat.le_refl _), Nat.sub_self]
  exact if_pos out

theorem addFrom?_fit {operands more : List UInt32} (m : Declarations)
    (counts : (header >>> 16).toNat = operands.length + 1) :
    addFrom? (front ++ header :: (operands ++ more)) front.length m =
      (decode? front.length m ⟨header &&& 0xffff, operands⟩).bind fun decoded =>
        match decoded with
        | .error e => some (.error e)
        | .ok next => addFrom? (front ++ header :: (operands ++ more))
            (front.length + (operands.length + 1)) next := by
  have inside : front.length < (front ++ header :: (operands ++ more)).length := by simp
  have fits : ¬ ((header >>> 16).toNat = 0 ∨
      (front ++ header :: (operands ++ more)).length < front.length + (header >>> 16).toNat) := by
    simp only [counts, List.length_append, List.length_cons]
    omega
  have found : slice? (front ++ header :: (operands ++ more)) (front.length + 1)
      (front.length + (header >>> 16).toNat) = some operands := by
    have middle := slice?_append (front ++ [header]) operands more
    rw [List.append_assoc, List.length_append] at middle
    rw [counts, Nat.add_comm operands.length, ← Nat.add_assoc]
    exact middle
  rw [addFrom?, if_pos inside, List.getElem?_append_right (Nat.le_refl _), Nat.sub_self]
  refine (if_neg fits).trans ?_
  rw [found, counts]
  rfl

end turn

theorem addFrom?_eq (m : Declarations) (front rest : List UInt32) :
    addFrom? (front ++ rest) front.length m = some (addInstructions front.length m rest) := by
  induction size : rest.length using Nat.strongRecOn generalizing front rest m with
  | ind size ih =>
    cases rest with
    | nil => rw [List.append_nil, addFrom?_end, addInstructions_nil]
    | cons header tail =>
      by_cases unfit : (header >>> 16).toNat = 0 ∨ tail.length + 1 < (header >>> 16).toNat
      · rw [addFrom?_unfit m unfit, addInstructions]
        exact (congrArg some (if_pos unfit)).symm
      · obtain ⟨operands, more, rfl, counts⟩ := exists_operands unfit
        rw [addFrom?_fit m counts, addInstructions_cons counts]
        by_cases complete : Instruction.Complete ⟨header &&& 0xffff, operands⟩
        · rw [decode?_complete complete, checkOperands_complete _ complete]
          have next := ih more.length (by simp at size; omega) (m.add ⟨header &&& 0xffff, operands⟩)
            (front ++ header :: operands) more rfl
          simpa using next
        · rw [decode?_lacking complete, checkOperands_lacking _ complete]
          rfl

theorem parse?_eq (words : List UInt32) : parse? words = some (parse words) := by
  have looked : words[0]? = words.head? := List.head?_eq_getElem?.symm
  unfold parse?
  rw [looked]
  rcases header_cases words with short | ⟨first, long, starts, other⟩ | headed
  · rw [parse_short short, if_pos short]
    rfl
  · rw [parse_unmagic long starts other, if_neg (Nat.not_lt.mpr long), starts]
    exact if_pos other
  · have place : (words.take headerWords).length = headerWords := by
      rw [List.length_take, Nat.min_eq_left headed.long]
    have run := addFrom?_eq {} (words.take headerWords) (words.drop headerWords)
    rw [List.take_append_drop, place] at run
    rw [parse_headed headed, if_neg (Nat.not_lt.mpr headed.long), headed.magic, ← run]
    have same : ¬ magic ≠ magic := fun other => other rfl
    rw [Option.bind_eq_bind, Option.bind_some, if_neg same]

/-- The reader takes exactly the language, at the first offence gives its fault, never looks past the
words or an instruction's operands, and takes back all that can be written down. -/
theorem parse_exact (words : List UInt32) :
    (∀ d, parse words = .ok d ↔ Headed words ∧ ∃ is, Splits (words.drop headerWords) is ∧
      (∀ i ∈ is, i.Complete) ∧ is.foldl Declarations.add {} = d) ∧
    (∀ e, parse words = .error e ↔ Refused words e) ∧
    parse? words = some (parse words) ∧
    ∀ (header : List UInt32) (is : List Instruction), Headed header → header.length = headerWords →
      (∀ i ∈ is, i.Encodable) → (∀ i ∈ is, i.Complete) →
      words = header ++ is.flatMap Instruction.encode →
      parse words = .ok (is.foldl Declarations.add {}) := by
  refine ⟨fun d => parse_ok_iff, fun e => parse_error_iff, parse?_eq words, ?_⟩
  rintro header is headed exact encodable complete rfl
  exact parse_encode headed exact encodable complete

namespace NamedType

def header : List UInt32 := [magic, 0x10000, 0, 2, 0]

def instructions : List Instruction := [⟨20, [1]⟩, ⟨5, [1, 0x61]⟩, ⟨17, []⟩]

def words : List UInt32 := header ++ instructions.flatMap Instruction.encode

end NamedType

open NamedType in
theorem parse_exact_named_type :
    Headed header ∧ header.length = headerWords ∧ (∀ i ∈ instructions, i.Encodable) ∧
      (∀ i ∈ instructions, i.Complete) ∧
      parse words = .ok (instructions.foldl Declarations.add {}) := by
  have headed : Headed header := ⟨by decide, rfl⟩
  have encodable : ∀ i ∈ instructions, i.Encodable := by decide
  have complete : ∀ i ∈ instructions, i.Complete := by decide
  exact ⟨headed, rfl, encodable, complete,
    (parse_exact words).2.2.2 header instructions headed rfl encodable complete rfl⟩

end SceneGpu.Bytecode
