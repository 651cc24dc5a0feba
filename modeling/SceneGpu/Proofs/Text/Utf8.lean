import SceneGpu.Text.Utf8
/-!
Decoding around a byte that is a character of its own: no unit reaches across it, so what stands before it
is a text by itself, and so is what stands behind it.
-/
namespace SceneGpu.Utf8

theorem lead_all_high (b : UInt8) :
    (lead b).all (fun l => l.2.all fun r => decide (0x80 ≤ r.1)) = true := by
  unfold lead
  repeat' split
  all_goals rfl

theorem lead_high {b : UInt8} {payload : Nat} {ranges : List (UInt8 × UInt8)}
    (eq : lead b = some (payload, ranges)) : ∀ r ∈ ranges, 0x80 ≤ r.1 := by
  have high := lead_all_high b
  rw [eq] at high
  simpa using high

theorem follow_append {ranges : List (UInt8 × UInt8)} {b : UInt8} (high : ∀ r ∈ ranges, 0x80 ≤ r.1)
    (low : b < 0x80) (acc : Nat) (front back : List UInt8) :
    follow ranges acc (front ++ b :: back) =
      ((follow ranges acc front).1, (follow ranges acc front).2 ++ b :: back) := by
  induction ranges generalizing acc front with
  | nil => rfl
  | cons r rest ih =>
    obtain ⟨lo, hi⟩ := r
    have above : ¬ lo ≤ b := by
      intro reaches
      exact absurd (UInt8.lt_of_le_of_lt (UInt8.le_trans (high _ List.mem_cons_self) reaches) low)
        (UInt8.lt_irrefl _)
    cases front with
    | nil => simp [follow, above]
    | cons c front =>
      simp only [List.cons_append, follow]
      split
      · exact ih (fun r mem => high r (List.mem_cons_of_mem _ mem)) _ front
      · rfl

theorem unit_append {b : UInt8} (low : b < 0x80) (first : UInt8) (front back : List UInt8) :
    unit first (front ++ b :: back) =
      ((unit first front).1, (unit first front).2 ++ b :: back) := by
  unfold unit
  split
  · rfl
  · rename_i payload ranges eq
    rw [follow_append (lead_high eq) low]

theorem units_append {b : UInt8} (low : b < 0x80) (front back : List UInt8) :
    units (front ++ b :: back) = units front ++ units (b :: back) := by
  induction size : front.length using Nat.strongRecOn generalizing front with
  | ind size ih =>
    cases front with
    | nil => simp [units]
    | cons first rest =>
      rw [List.cons_append, units, unit_append low]
      have shorter := Nat.lt_succ_of_le (unit_length_le first rest)
      rw [ih _ (size ▸ shorter) _ rfl]
      rw [units.eq_def (first :: rest)]
      rfl

theorem decodeLossy_append {b : UInt8} (low : b < 0x80) (front back : List UInt8) :
    decodeLossy (front ++ b :: back) = decodeLossy front ++ decodeLossy (b :: back) := by
  simp only [decodeLossy, units_append low, List.map_append]

theorem unit_low {b : UInt8} (low : b < 0x80) (rest : List UInt8) :
    unit b rest = (some (Char.ofNat b.toNat), rest) := by
  simp [unit, lead, low, follow]

theorem decode?_nil : decode? [] = some [] := by
  simp [decode?, units]

theorem decode?_cons_low {b : UInt8} (low : b < 0x80) (rest : List UInt8) :
    decode? (b :: rest) = (decode? rest).map (Char.ofNat b.toNat :: ·) := by
  rw [decode?, units, unit_low low, List.mapM_cons]
  change (decode? rest).bind _ = _
  cases decode? rest <;> rfl

theorem decode?_append {b : UInt8} (low : b < 0x80) (front back : List UInt8) :
    decode? (front ++ b :: back) =
      (decode? front).bind fun cs => (decode? back).map (cs ++ Char.ofNat b.toNat :: ·) := by
  rw [decode?, units_append low, List.mapM_append]
  change (decode? front).bind (fun cs => (decode? (b :: back)).bind fun ds => some (cs ++ ds)) = _
  rw [decode?_cons_low low]
  cases decode? front with
  | none => rfl
  | some cs => cases decode? back <;> rfl

theorem decode?_append_low {tail : List UInt8} (low : ∀ b ∈ tail, b < 0x80) (stem : List UInt8) :
    decode? (stem ++ tail) = (decode? stem).map (· ++ tail.map fun b => Char.ofNat b.toNat) := by
  induction tail generalizing stem with
  | nil => simp
  | cons b rest ih =>
    have first := low b List.mem_cons_self
    have grown := ih (fun c mem => low c (List.mem_cons_of_mem b mem)) (stem ++ [b])
    rw [List.append_assoc, List.singleton_append] at grown
    rw [grown, decode?_append first, decode?_nil]
    cases decode? stem <;> simp

end SceneGpu.Utf8
