/-!
UTF-8 over byte lists. A byte list is cut into units: a unit is a well-formed encoded character, or
the longest beginning of one that the following byte breaks off. Strict decoding accepts only
characters; lossy decoding puts one replacement character for each broken unit.
-/
namespace SceneGpu.Utf8

def encode (cs : List Char) : List UInt8 := cs.flatMap String.utf8EncodeChar

def encodeText (s : String) : List UInt8 := encode s.toList

/-- The payload bits of a leading byte and the ranges its following bytes must lie in. -/
def lead (b : UInt8) : Option (Nat × List (UInt8 × UInt8)) :=
  if b < 0x80 then some (b.toNat, [])
  else if b < 0xC2 then none
  else if b < 0xE0 then some (b.toNat % 32, [(0x80, 0xBF)])
  else if b = 0xE0 then some (0, [(0xA0, 0xBF), (0x80, 0xBF)])
  else if b = 0xED then some (13, [(0x80, 0x9F), (0x80, 0xBF)])
  else if b < 0xF0 then some (b.toNat % 16, [(0x80, 0xBF), (0x80, 0xBF)])
  else if b = 0xF0 then some (0, [(0x90, 0xBF), (0x80, 0xBF), (0x80, 0xBF)])
  else if b < 0xF4 then some (b.toNat % 8, [(0x80, 0xBF), (0x80, 0xBF), (0x80, 0xBF)])
  else if b = 0xF4 then some (4, [(0x80, 0x8F), (0x80, 0xBF), (0x80, 0xBF)])
  else none

def follow : List (UInt8 × UInt8) → Nat → List UInt8 → Option Nat × List UInt8
  | [], acc, rest => (some acc, rest)
  | _ :: _, _, [] => (none, [])
  | (lo, hi) :: rs, acc, b :: rest =>
    if lo ≤ b && b ≤ hi then follow rs (acc * 64 + b.toNat % 64) rest else (none, b :: rest)

theorem follow_length_le (rs : List (UInt8 × UInt8)) (acc : Nat) (bytes : List UInt8) :
    (follow rs acc bytes).2.length ≤ bytes.length := by
  induction rs generalizing acc bytes with
  | nil => simp [follow]
  | cons r rs ih =>
    cases bytes with
    | nil => simp [follow]
    | cons b rest =>
      simp only [follow]
      split
      · exact Nat.le_succ_of_le (ih _ rest)
      · simp

def unit (b : UInt8) (rest : List UInt8) : Option Char × List UInt8 :=
  match lead b with
  | none => (none, rest)
  | some (payload, ranges) =>
    let r := follow ranges payload rest
    (r.1.map Char.ofNat, r.2)

theorem unit_length_le (b : UInt8) (rest : List UInt8) :
    (unit b rest).2.length ≤ rest.length := by
  unfold unit
  split
  · simp
  · exact follow_length_le _ _ _

/-- The units of a byte list in order; `none` stands for a broken one. -/
def units : List UInt8 → List (Option Char)
  | [] => []
  | b :: rest => (unit b rest).1 :: units (unit b rest).2
termination_by bytes => bytes.length
decreasing_by exact Nat.lt_succ_of_le (unit_length_le b rest)

def decode? (bytes : List UInt8) : Option (List Char) := (units bytes).mapM id

def decodeText? (bytes : List UInt8) : Option String := (decode? bytes).map String.ofList

def decodeLossy (bytes : List UInt8) : List Char :=
  (units bytes).map fun u => u.getD (Char.ofNat 0xFFFD)

def decodeTextLossy (bytes : List UInt8) : String := String.ofList (decodeLossy bytes)

/-- Where decoding first breaks: the offset of the broken unit, and its length unless the bytes end
inside it. -/
structure Break where
  offset : Nat
  length : Option Nat
deriving DecidableEq, Repr

def firstBreak? (offset : Nat) : List UInt8 → Option Break
  | [] => none
  | b :: rest =>
    let after := (unit b rest).2
    let size := rest.length - after.length + 1
    match (unit b rest).1 with
    | some _ => firstBreak? (offset + size) after
    | none =>
      let cut := after.isEmpty && (lead b).any fun l => size ≤ l.2.length
      some ⟨offset, if cut then none else some size⟩
termination_by bytes => bytes.length
decreasing_by exact Nat.lt_succ_of_le (unit_length_le b rest)

end SceneGpu.Utf8
