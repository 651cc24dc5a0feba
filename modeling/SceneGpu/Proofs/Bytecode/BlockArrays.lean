import SceneGpu.Proofs.Bytecode.ActiveMembers
/-!
Arrays of uniform blocks. A chain counts for its first index, whatever that index selects: in an array of
blocks it counts out one of the blocks, and the member behind it is not looked at.
-/
namespace SceneGpu.Bytecode

/-- It is not about the variable, or it is a chain of constants known so far, one for each array around the
block and one more. -/
def Instruction.selects (levels : Nat) (known : UInt32 → Option UInt32) (id : UInt32) (i : Instruction) :
    Bool :=
  match i.mention? with
  | some (.whole source) => source ≠ id
  | some (.chain base indices) =>
    base ≠ id || (indices.length = levels + 1 && indices.all fun k => (known k).isSome)
  | _ => true

def SelectsMembers (levels : Nat) (id : UInt32) (later : List (List Instruction × Instruction)) : Prop :=
  ∀ e ∈ later, e.2.selects levels (valueIn? e.1) id = true

instance (levels : Nat) (id : UInt32) (later : List (List Instruction × Instruction)) :
    Decidable (SelectsMembers levels id later) :=
  inferInstanceAs (Decidable (∀ e ∈ later, _))

theorem SelectsMembers.not_readWhole {levels : Nat} {id : UInt32}
    {later : List (List Instruction × Instruction)} (selects : SelectsMembers levels id later) :
    ¬ ReadWhole id later := by
  rintro ⟨⟨earlier, i⟩, mem, reads⟩
  have chosen := selects _ mem
  dsimp only [Instruction.selects, Instruction.readsWhole] at chosen reads
  split at reads
  · rename_i source told
    rw [told] at chosen
    simp only [ne_eq, decide_not, Bool.not_eq_eq_eq_not, Bool.not_true, decide_eq_false_iff_not,
      decide_eq_true_eq] at chosen reads
    exact chosen reads
  · rename_i base indices told
    rw [told] at chosen
    simp only [ne_eq, decide_not, Bool.or_eq_true, Bool.not_eq_eq_eq_not, Bool.not_true,
      decide_eq_false_iff_not, Bool.and_eq_true, decide_eq_true_eq, List.all_eq_true,
      Option.isNone_iff_eq_none, Option.bind_eq_none_iff] at chosen reads
    obtain ⟨here, unknown⟩ := reads
    rcases chosen with away | ⟨counts, known⟩
    · exact away here
    · cases indices with
      | nil => cases counts
      | cons first rest =>
        have settled := known first List.mem_cons_self
        rw [unknown first rfl] at settled
        cases settled
  · cases reads

namespace Declarations

variable {words : List UInt32} {d : Declarations} {r : Resources} {v : Variable}
  {front back : List Instruction} {decl : Instruction} {levels : Nat} {block : UInt32}
  {members : List UInt32}

/-- Of an array of blocks, each chain makes the member active that its outermost index counts out. That is
the member it selects where the two indices agree. -/
theorem introspect_arrayed (parsed : parse words = .ok d) (introspected : introspect words = .ok r)
    (declared : DeclaresUniform words v front decl back)
    (points : d.PointsToBlock v (levels + 1) block members)
    (selects : SelectsMembers (levels + 1) v.id (scan (front ++ [decl]) back)) :
    ∃ b, d.Reports r v b ∧ (∀ a ∈ b.active, d.TellsMember block members a) ∧
      b.active.map (·.index) = (indexValues 0 v.id (scan (front ++ [decl]) back)).eraseDups.filter
        (·.toNat < members.length) ∧
      ((∀ e ∈ scan (front ++ [decl]) back, e.2.indexValue? 0 (valueIn? e.1) v.id =
          e.2.indexValue? (levels + 1) (valueIn? e.1) v.id) →
        b.active.map (·.index) =
          (indexValues (levels + 1) v.id (scan (front ++ [decl]) back)).eraseDups.filter
            (·.toNat < members.length)) := by
  obtain ⟨b, reports, active⟩ := active_declared parsed introspected declared points
  have first := active.partly selects.not_readWhole
  refine ⟨b, reports, active.tells, first, ?_⟩
  intro agree
  have same : indexValues 0 v.id (scan (front ++ [decl]) back) =
      indexValues (levels + 1) v.id (scan (front ++ [decl]) back) := List.filterMap_congr agree
  rw [first, same]

end Declarations

namespace TwoVectors

def blockChain : List Instruction := [⟨65, [12, 13, 11, 6, 5]⟩]

theorem parse_blockChain : parse (words 8 blockChain) = .ok (made 8 blockChain) :=
  parse_encode ⟨by decide, rfl⟩ rfl (by decide) (by decide)

theorem introspect_blockChain :
    introspect (words 8 blockChain) = .ok ⟨[⟨"", 0, 0, [⟨1, "", 16, 16⟩]⟩], [], []⟩ := by
  unfold introspect
  rw [parse_blockChain]
  rfl

theorem declares_blockChain :
    DeclaresUniform (words 8 blockChain) uniform (front 8) decl (back blockChain) :=
  ⟨splits_encode (by decide), rfl, rfl, by decide⟩

theorem pointsToBlock_blockChain : (made 8 blockChain).PointsToBlock uniform 1 3 [2, 2] := by
  have blocks : (made 8 blockChain).types 8 = some (.array 3 9) := rfl
  exact ⟨⟨8, rfl, .array blocks .bare⟩, rfl, rfl⟩

end TwoVectors

open TwoVectors

theorem introspect_arrayed_second_block :
    ∃ r, parse (words 8 blockChain) = .ok (made 8 blockChain) ∧
      introspect (words 8 blockChain) = .ok r ∧
      ∃ b, (made 8 blockChain).Reports r uniform b ∧ b.active.map (·.index) = [1] := by
  obtain ⟨b, reports, _, first, _⟩ := Declarations.introspect_arrayed parse_blockChain
    introspect_blockChain declares_blockChain pointsToBlock_blockChain (by decide)
  exact ⟨_, parse_blockChain, introspect_blockChain, b, reports, first⟩

/-- Of the second block the first vector is read, and the second is reported. -/
theorem introspect_arrayed_not_selected :
    ¬ ∀ (words : List UInt32) (d : Declarations) (r : Resources) (v : Variable)
        (front : List Instruction) (decl : Instruction) (back : List Instruction) (levels : Nat)
        (block : UInt32) (members : List UInt32), parse words = .ok d → introspect words = .ok r →
        DeclaresUniform words v front decl back → d.PointsToBlock v (levels + 1) block members →
        SelectsMembers (levels + 1) v.id (scan (front ++ [decl]) back) →
          ∃ b, d.Reports r v b ∧ b.active.map (·.index) =
            (indexValues (levels + 1) v.id (scan (front ++ [decl]) back)).eraseDups.filter
              (·.toNat < members.length) := by
  intro selected
  obtain ⟨b, ⟨k, _, there⟩, indices⟩ := selected _ _ _ _ _ _ _ _ _ _ parse_blockChain
    introspect_blockChain declares_blockChain pointsToBlock_blockChain (by decide)
  obtain ⟨only, rfl⟩ := List.getElem?_eq_some_iff.mp there
  obtain rfl : k = 0 := Nat.lt_one_iff.mp only
  have impossible : ([1] : List UInt32) = [0] := indices
  exact absurd impossible (by decide)

end SceneGpu.Bytecode
