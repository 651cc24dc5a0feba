import Mathlib.Data.List.Infix
import SceneGpu.Text.Basic
/-!
Finding a word in a text in which another text was put for each occurrence of a needle. The word can
come up anew only if what was put in has it, or can complete it.
-/
namespace SceneGpu.Text

theorem occursIn_iff {needle s : List Char} : occursIn needle s = true ↔ needle <:+: s := by
  induction s with
  | nil => simp [occursIn]
  | cons c rest ih =>
    rw [occursIn, Bool.or_eq_true, List.isPrefixOf_iff_prefix, ih, List.infix_cons_iff]

theorem contains_iff {text needle : String} :
    contains text needle = true ↔ needle.toList <:+: text.toList := occursIn_iff

inductive Replaced (needle new : List Char) : List Char → List Char → Prop
  | nil : Replaced needle new [] []
  | hit {s t : List Char} (more : Replaced needle new s t) :
      Replaced needle new (needle ++ s) (new ++ t)
  | miss {c : Char} {s t : List Char} (other : ¬ needle <+: c :: s)
      (more : Replaced needle new s t) : Replaced needle new (c :: s) (c :: t)

section Replacing

variable {needle new s t : List Char}

theorem replaceFrom_drop (skip : Nat) (s : List Char) :
    replaceFrom needle new skip s = replaceFrom needle new 0 (s.drop skip) := by
  induction skip generalizing s with
  | zero => rfl
  | succ skip ih =>
    cases s with
    | nil => rfl
    | cons c rest => exact ih rest

theorem replaceFrom_hit (some_ : needle ≠ []) (s : List Char) :
    replaceFrom needle new 0 (needle ++ s) = new ++ replaceFrom needle new 0 s := by
  obtain ⟨c, rest, rfl⟩ := List.exists_cons_of_ne_nil some_
  have here : (c :: rest).isPrefixOf (c :: (rest ++ s)) = true :=
    List.isPrefixOf_iff_prefix.mpr ⟨s, rfl⟩
  rw [List.cons_append, replaceFrom, if_pos here, replaceFrom_drop]
  simp

theorem replaceFrom_miss {c : Char} (other : ¬ needle <+: c :: s) :
    replaceFrom needle new 0 (c :: s) = c :: replaceFrom needle new 0 s := by
  rw [replaceFrom, if_neg (mt List.isPrefixOf_iff_prefix.mp other)]

theorem replaced_replaceFrom (some_ : needle ≠ []) (s : List Char) :
    Replaced needle new s (replaceFrom needle new 0 s) := by
  induction size : s.length using Nat.strongRecOn generalizing s with
  | ind n ih =>
    cases s with
    | nil => exact .nil
    | cons c rest =>
      by_cases here : needle <+: c :: rest
      · obtain ⟨after, whole⟩ := here
        have shorter : after.length < n := by
          have filled := List.length_pos_of_ne_nil some_
          rw [← size, ← whole, List.length_append]
          omega
        rw [← whole, replaceFrom_hit some_]
        exact .hit (ih _ shorter after rfl)
      · rw [replaceFrom_miss here]
        exact .miss here (ih _ (by simp [← size]) rest rfl)

theorem Replaced.eq (some_ : needle ≠ []) (replaced : Replaced needle new s t) :
    replaceFrom needle new 0 s = t := by
  induction replaced with
  | nil => rfl
  | hit _ ih => rw [replaceFrom_hit some_, ih]
  | miss other _ ih => rw [replaceFrom_miss other, ih]

theorem Replaced.unnamed (replaced : Replaced needle new s t) (unnamed : ¬ needle <:+: s) : t = s := by
  induction replaced with
  | nil => rfl
  | hit _ _ => exact absurd (List.prefix_append _ _).isInfix unnamed
  | miss _ _ ih => rw [ih fun found => unnamed (List.infix_cons found)]

end Replacing

/-- A text with this one in it can have the word in it, though the word is in no part beside this one:
this text has the word or lies within it, begins with an end of it or ends with a beginning of it. -/
def Completes (word new : List Char) : Prop :=
  word <:+: new ∨ new <:+: word ∨ (∃ v ∈ word.tails, v ≠ [] ∧ v <+: new) ∨
    ∃ u ∈ word.inits, u ≠ [] ∧ u <:+ new

instance (word new : List Char) : Decidable (Completes word new) :=
  inferInstanceAs (Decidable (word <:+: new ∨ new <:+: word ∨
    (∃ v ∈ word.tails, v ≠ [] ∧ v <+: new) ∨ ∃ u ∈ word.inits, u ≠ [] ∧ u <:+ new))

section Words

variable {needle new word s t : List Char}

theorem prefix_of_replaced (apart : ¬ Completes word new) (replaced : Replaced needle new s t)
    {v : List Char} (tail : v <:+ word) (ahead : v <+: t) : v <+: s := by
  induction replaced generalizing v with
  | nil => exact ahead
  | @hit s t _ _ =>
    by_cases empty : v = []
    · rw [empty]
      exact List.nil_prefix
    exfalso
    apply apart
    rcases List.prefix_or_prefix_of_prefix ahead (List.prefix_append new t) with within | beyond
    · exact .inr (.inr (.inl ⟨v, (List.mem_tails _ _).mpr tail, empty, within⟩))
    · exact .inr (.inl (beyond.isInfix.trans tail.isInfix))
  | @miss c s t _ _ ih =>
    rcases List.prefix_cons_iff.mp ahead with rfl | ⟨rest, rfl, more⟩
    · exact List.nil_prefix
    · exact List.cons_prefix_cons.mpr ⟨rfl, ih ((List.suffix_cons c rest).trans tail) more⟩

theorem infix_of_replaced (apart : ¬ Completes word new) (replaced : Replaced needle new s t)
    (found : word <:+: t) : word <:+: s := by
  induction replaced with
  | nil => exact found
  | @hit s t more ih =>
    rcases List.infix_append_iff.mp found with inside | later | ⟨u, v, rfl, last, first⟩
    · exact absurd (.inl inside) apart
    · exact (ih later).trans (List.suffix_append _ _).isInfix
    · by_cases empty : u = []
      · subst empty
        exact (ih first.isInfix).trans (List.suffix_append _ _).isInfix
      · have head : u ∈ (u ++ v).inits := (List.mem_inits _ _).mpr (List.prefix_append u v)
        exact absurd (.inr (.inr (.inr ⟨u, head, empty, last⟩))) apart
  | @miss c s t other more ih =>
    rcases List.infix_cons_iff.mp found with here | later
    · exact (prefix_of_replaced apart (.miss other more) (List.suffix_refl word) here).isInfix
    · exact List.infix_cons (ih later)

theorem infix_cut {c : Char} (other : c ∉ word) {front back : List Char}
    (found : word <:+: front ++ c :: back) : word <:+: front ∨ word <:+: back := by
  rcases List.infix_append_iff.mp found with inside | later | ⟨u, v, rfl, last, first⟩
  · exact .inl inside
  · rcases List.infix_cons_iff.mp later with here | later
    · rcases List.prefix_cons_iff.mp here with rfl | ⟨rest, rfl, _⟩
      · exact .inr List.nil_infix
      · exact absurd List.mem_cons_self other
    · exact .inr later
  · rcases List.prefix_cons_iff.mp first with rfl | ⟨rest, rfl, _⟩
    · rw [List.append_nil]
      exact .inl last.isInfix
    · exact absurd (List.mem_append_right u List.mem_cons_self) other

end Words

section Marked

/- A needle between two marks that the word does not have. -/
variable {opening closing : Char} {name new word : List Char}

theorem Replaced.front {s t u : List Char} (plain : opening ∉ u)
    (more : Replaced (opening :: name) new s t) :
    Replaced (opening :: name) new (u ++ s) (u ++ t) := by
  induction u with
  | nil => exact more
  | cons c rest ih =>
    rw [List.mem_cons, not_or] at plain
    refine .miss ?_ (ih plain.2)
    intro here
    exact plain.1 (List.cons_prefix_cons.mp here).1

theorem prefix_replaced {s t v : List Char} (plain : opening ∉ v)
    (replaced : Replaced (opening :: name) new s t) (ahead : v <+: s) : v <+: t := by
  induction replaced generalizing v with
  | nil => exact ahead
  | hit _ _ =>
    rcases List.prefix_cons_iff.mp ahead with rfl | ⟨rest, rfl, _⟩
    · exact List.nil_prefix
    · exact absurd List.mem_cons_self plain
  | miss _ _ ih =>
    rcases List.prefix_cons_iff.mp ahead with rfl | ⟨rest, rfl, more⟩
    · exact List.nil_prefix
    · rw [List.mem_cons, not_or] at plain
      exact List.cons_prefix_cons.mpr ⟨rfl, ih plain.2 more⟩

/-- A word that shares neither mark and is not in the needle stays. -/
theorem infix_replaced {s t : List Char} (opens : opening ∉ word) (closes : closing ∉ word)
    (apart : ¬ word <:+: name)
    (replaced : Replaced (opening :: (name ++ [closing])) new s t) (found : word <:+: s) :
    word <:+: t := by
  induction replaced with
  | nil => exact found
  | @hit s t _ ih =>
    have later : word <:+: s := by
      have cut : word <:+: [] ++ opening :: (name ++ closing :: s) := by
        simpa using found
      rcases infix_cut opens cut with none_ | inside
      · rw [List.infix_nil.mp none_]
        exact List.nil_infix
      · exact (infix_cut closes inside).resolve_left apart
    exact (ih later).trans (List.suffix_append _ _).isInfix
  | miss other more ih =>
    rcases List.infix_cons_iff.mp found with here | later
    · exact (prefix_replaced opens (.miss other more) here).isInfix
    · exact List.infix_cons (ih later)

end Marked

theorem parts_of_word {u w v word : List Char} (whole : u ++ (w ++ v) = word) (filled : w ≠ []) :
    u.length < word.length ∧ v.length < word.length ∧ u ⊆ word ∧ v ⊆ word := by
  have some_ := List.length_pos_of_ne_nil filled
  rw [← whole]
  refine ⟨?_, ?_, ?_, ?_⟩
  · simp only [List.length_append]
    omega
  · simp only [List.length_append]
    omega
  · exact List.subset_append_left _ _
  · exact List.subset_append_of_subset_right _ (List.subset_append_right _ _)

theorem Completes.between {word new : List Char} (completes : Completes word new)
    (long : 1 < word.length) :
    ∃ u v, (u.length < word.length ∧ v.length < word.length ∧ u ⊆ word ∧ v ⊆ word) ∧
      word <:+: u ++ (new ++ v) := by
  have some_ : word ≠ [] := List.ne_nil_of_length_pos (by omega)
  rcases completes with inside | ⟨u, v, whole⟩ | ⟨v, mem, filled, ahead⟩ | ⟨u, mem, filled, behind⟩
  · refine ⟨[], [], parts_of_word (w := word) (by simp) some_, ?_⟩
    simpa using inside
  · rw [List.append_assoc] at whole
    by_cases empty : new = []
    · -- nothing is put in, and the word is cut behind its first character
      obtain ⟨c, rest, rfl⟩ := List.exists_cons_of_ne_nil some_
      refine ⟨[c], rest, ⟨long, by simp, by simp, List.subset_cons_self c rest⟩, ?_⟩
      simp [empty]
    · refine ⟨u, v, parts_of_word whole empty, ?_⟩
      rw [whole]
  · obtain ⟨u, rfl⟩ := (List.mem_tails _ _).mp mem
    refine ⟨u, [], parts_of_word (w := v) (by simp) filled, ?_⟩
    rw [List.append_nil]
    exact ((List.prefix_append_right_inj u).mpr ahead).isInfix
  · obtain ⟨v, rfl⟩ := (List.mem_inits _ _).mp mem
    refine ⟨[], v, parts_of_word (w := u) rfl filled, ?_⟩
    rw [List.nil_append]
    exact (List.suffix_append_self_iff.mpr behind).isInfix

end SceneGpu.Text
