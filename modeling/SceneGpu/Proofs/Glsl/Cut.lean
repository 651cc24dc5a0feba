import Mathlib.Data.List.TakeWhile
import SceneGpu.Glsl.Piece
/-!
Text put together from pieces is cut into the same pieces again if each of them can stand before what
follows it. Whether it can depends on the next character only.
-/
namespace SceneGpu.Glsl

inductive Start (c : Char) (s : List Char) : Prop
  | blank (blank : Text.isBlank c = true)
  | line (slash : c = '/') (t : List Char) (next : s = '/' :: t)
  | block (slash : c = '/') (t : List Char) (next : s = '*' :: t)
  | word (blank : Text.isBlank c = false) (word : isWordStart c = true)
  | number (blank : Text.isBlank c = false) (word : isWordStart c = false)
      (digit : c.isDigit = true)
  | mark (blank : Text.isBlank c = false) (word : isWordStart c = false)
      (digit : c.isDigit = false)
      (alone : ¬ (c = '/' ∧ (s.head? = some '/' ∨ s.head? = some '*')))

theorem start (c : Char) (s : List Char) : Start c s := by
  by_cases comment : c = '/' ∧ (s.head? = some '/' ∨ s.head? = some '*')
  · obtain ⟨slash, line | block⟩ := comment
    · obtain ⟨t, next⟩ := List.head?_eq_some_iff.mp line
      exact .line slash t next
    · obtain ⟨t, next⟩ := List.head?_eq_some_iff.mp block
      exact .block slash t next
  · cases blank : Text.isBlank c with
    | true => exact .blank blank
    | false =>
      cases word : isWordStart c with
      | true => exact .word blank word
      | false =>
        cases digit : c.isDigit with
        | true => exact .number blank word digit
        | false => exact .mark blank word digit comment

section First

variable {c : Char} {s : List Char}

theorem firstPiece_blank (blank : Text.isBlank c = true) :
    firstPiece c s = (.blank (c :: s.takeWhile Text.isBlank), s.dropWhile Text.isBlank) := by
  unfold firstPiece
  rw [if_pos blank]

theorem isBlank_slash : Text.isBlank '/' = false := by decide

theorem firstPiece_line : firstPiece '/' ('/' :: s) =
    (.comment ('/' :: '/' :: (splitLine s).1), (splitLine s).2) := by
  simp [firstPiece, isBlank_slash]

theorem firstPiece_block : firstPiece '/' ('*' :: s) =
    (.comment ('/' :: '*' :: (splitBlock s).1), (splitBlock s).2) := by
  simp [firstPiece, isBlank_slash]

theorem firstPiece_word (blank : Text.isBlank c = false) (word : isWordStart c = true) :
    firstPiece c s = (.word (c :: s.takeWhile isWordPart), s.dropWhile isWordPart) := by
  have slash : c ≠ '/' := by
    rintro rfl
    exact absurd word (by decide)
  simp [firstPiece, blank, slash, word]

theorem firstPiece_number (blank : Text.isBlank c = false) (word : isWordStart c = false)
    (digit : c.isDigit = true) :
    firstPiece c s = (.number (c :: s.takeWhile isNumberPart), s.dropWhile isNumberPart) := by
  have slash : c ≠ '/' := by
    rintro rfl
    exact absurd digit (by decide)
  simp [firstPiece, blank, slash, word, digit]

theorem firstPiece_mark (blank : Text.isBlank c = false) (word : isWordStart c = false)
    (digit : c.isDigit = false)
    (alone : ¬ (c = '/' ∧ (s.head? = some '/' ∨ s.head? = some '*'))) :
    firstPiece c s = (.mark c, s) := by
  have line : ¬ (c = '/' ∧ s.head? = some '/') := fun h => alone ⟨h.1, .inl h.2⟩
  have block : ¬ (c = '/' ∧ s.head? = some '*') := fun h => alone ⟨h.1, .inr h.2⟩
  simp [firstPiece, blank, word, digit, line, block]

end First

theorem splitLine_append (s : List Char) : (splitLine s).1 ++ (splitLine s).2 = s := by
  induction s with
  | nil => rfl
  | cons c rest ih =>
    simp only [splitLine]
    split
    · rfl
    · simp [ih]

theorem splitBlock_append (s : List Char) : (splitBlock s).1 ++ (splitBlock s).2 = s := by
  fun_induction splitBlock s with
  | case1 => rfl
  | case2 c rest _ r ih => simp [r, ih]
  | case3 => rfl

theorem firstPiece_append (c : Char) (s : List Char) :
    (firstPiece c s).1.text ++ (firstPiece c s).2 = c :: s := by
  cases start c s with
  | blank blank => simp [firstPiece_blank blank, Piece.text]
  | line slash t next => simp [slash, next, firstPiece_line, Piece.text, splitLine_append]
  | block slash t next => simp [slash, next, firstPiece_block, Piece.text, splitBlock_append]
  | word blank word => simp [firstPiece_word blank word, Piece.text]
  | number blank word digit => simp [firstPiece_number blank word digit, Piece.text]
  | mark blank word digit alone => simp [firstPiece_mark blank word digit alone, Piece.text]

theorem textOf_cons (p : Piece) (ps : List Piece) : textOf (p :: ps) = p.text ++ textOf ps := rfl

theorem textOf_append (ps qs : List Piece) : textOf (ps ++ qs) = textOf ps ++ textOf qs :=
  List.flatMap_append

theorem textOf_pieces (s : List Char) : textOf (pieces s) = s := by
  fun_induction pieces s with
  | case1 => rfl
  | case2 c rest ih => rw [textOf_cons, ih, firstPiece_append]

/-- A text that starts with the piece and goes on with `rest` is cut right behind the piece. -/
def Piece.Stands (p : Piece) (rest : List Char) : Prop :=
  ∃ c more, p.text = c :: more ∧ firstPiece c (more ++ rest) = (p, rest)

def WellCut : List Piece → Prop
  | [] => True
  | p :: rest => p.Stands (textOf rest) ∧ WellCut rest

theorem firstPiece_stands (c : Char) (s : List Char) :
    (firstPiece c s).1.Stands (firstPiece c s).2 := by
  have whole := firstPiece_append c s
  cases text : (firstPiece c s).1.text with
  | nil =>
    -- the piece would be empty
    exfalso
    cases start c s with
    | blank blank => simp [firstPiece_blank blank, Piece.text] at text
    | line slash t next => simp [slash, next, firstPiece_line, Piece.text] at text
    | block slash t next => simp [slash, next, firstPiece_block, Piece.text] at text
    | word blank word => simp [firstPiece_word blank word, Piece.text] at text
    | number blank word digit => simp [firstPiece_number blank word digit, Piece.text] at text
    | mark blank word digit alone =>
      simp [firstPiece_mark blank word digit alone, Piece.text] at text
  | cons d more =>
    rw [text, List.cons_append, List.cons.injEq] at whole
    obtain ⟨rfl, rest⟩ := whole
    exact ⟨d, more, text, by rw [rest]⟩

theorem wellCut_pieces (s : List Char) : WellCut (pieces s) := by
  fun_induction pieces s with
  | case1 => exact trivial
  | case2 c rest ih =>
    refine ⟨?_, ih⟩
    rw [textOf_pieces]
    exact firstPiece_stands c rest

theorem pieces_stands {p : Piece} {rest : List Char} (stands : p.Stands rest) :
    pieces (p.text ++ rest) = p :: pieces rest := by
  obtain ⟨c, more, text, cut⟩ := stands
  rw [text, List.cons_append, pieces, cut]

theorem pieces_textOf {ps : List Piece} (well : WellCut ps) : pieces (textOf ps) = ps := by
  induction ps with
  | nil => rw [textOf, List.flatMap_nil, pieces]
  | cons p rest ih => rw [textOf_cons, pieces_stands well.1, ih well.2]

theorem wellCut_of_append {front back : List Piece} (well : WellCut (front ++ back)) :
    WellCut back := by
  induction front with
  | nil => exact well
  | cons p rest ih => exact ih well.2

/-- A text that starts with this character would carry the piece on. -/
def Piece.Takes : Piece → Char → Prop
  | .blank _, d => Text.isBlank d = true
  | .comment _, _ => False
  | .word _, d => isWordPart d = true
  | .number _, d => isNumberPart d = true
  | .mark c, d => c = '/' ∧ (d = '/' ∨ d = '*')

theorem Piece.Stands.not_takes {p : Piece} {d : Char} {rest : List Char}
    (stands : p.Stands (d :: rest)) : ¬ p.Takes d := by
  obtain ⟨c, more, text, cut⟩ := stands
  have stops : ∀ q : Char → Bool, ∀ s : List Char, s.dropWhile q = d :: rest → ¬ q d = true := by
    intro q s drop
    have here := List.head?_dropWhile_not q s
    rw [drop] at here
    simpa using here
  cases start c (more ++ d :: rest) with
  | blank blank =>
    rw [firstPiece_blank blank] at cut
    obtain ⟨rfl, drop⟩ := Prod.mk.inj cut
    exact stops _ _ drop
  | line slash t next =>
    rw [slash, next, firstPiece_line] at cut
    obtain ⟨rfl, _⟩ := Prod.mk.inj cut
    exact id
  | block slash t next =>
    rw [slash, next, firstPiece_block] at cut
    obtain ⟨rfl, _⟩ := Prod.mk.inj cut
    exact id
  | word blank word =>
    rw [firstPiece_word blank word] at cut
    obtain ⟨rfl, drop⟩ := Prod.mk.inj cut
    exact stops _ _ drop
  | number blank word digit =>
    rw [firstPiece_number blank word digit] at cut
    obtain ⟨rfl, drop⟩ := Prod.mk.inj cut
    exact stops _ _ drop
  | mark blank word digit alone =>
    rw [firstPiece_mark blank word digit alone] at cut
    obtain ⟨rfl, whole⟩ := Prod.mk.inj cut
    rw [whole] at alone
    simpa [Piece.Takes] using alone

theorem splitLine_other {a b : List Char} (cut : splitLine (a ++ b) = (a, b)) (more : b ≠ [])
    (other : List Char) : splitLine (a ++ other) = (a, other) := by
  induction a with
  | nil =>
    obtain ⟨d, t, rfl⟩ := List.exists_cons_of_ne_nil more
    simp only [List.nil_append, splitLine] at cut
    split at cut <;> simp at cut
  | cons c rest ih =>
    simp only [List.cons_append, splitLine] at cut ⊢
    split
    · rename_i line
      rw [if_pos line] at cut
      simp only [Prod.mk.injEq, List.cons.injEq, true_and] at cut
      simp [← cut.1]
    · rename_i line
      rw [if_neg line] at cut
      simp only [Prod.mk.injEq, List.cons.injEq, true_and] at cut
      rw [ih (Prod.ext cut.1 cut.2)]

theorem splitBlock_cons {c : Char} {s : List Char} (inside : ¬ (c = '*' ∧ s.head? = some '/')) :
    splitBlock (c :: s) = (c :: (splitBlock s).1, (splitBlock s).2) := by
  rw [splitBlock.eq_def]
  split
  · rename_i eq
    simp at eq
    simp [eq] at inside
  · rename_i eq
    cases eq
    rfl
  · rename_i eq
    cases eq

theorem splitBlock_fst_ne_nil {s : List Char} (some_ : s ≠ []) : (splitBlock s).1 ≠ [] := by
  fun_cases splitBlock s with
  | case1 => simp
  | case2 => simp
  | case3 => exact absurd rfl some_

theorem splitBlock_other {a b : List Char} (cut : splitBlock (a ++ b) = (a, b)) (more : b ≠ [])
    (other : List Char) : splitBlock (a ++ other) = (a, other) := by
  induction a with
  | nil => exact absurd (congrArg Prod.fst cut) (splitBlock_fst_ne_nil more)
  | cons c rest ih =>
    cases rest with
    | nil =>
      -- a block is not closed by one character
      exfalso
      by_cases close : c = '*' ∧ b.head? = some '/'
      · obtain ⟨rfl, slash⟩ := close
        obtain ⟨t, rfl⟩ := List.head?_eq_some_iff.mp slash
        simp [splitBlock] at cut
      · have inner := congrArg Prod.fst cut
        simp only [List.singleton_append, splitBlock_cons close, List.cons.injEq, true_and] at inner
        exact splitBlock_fst_ne_nil more inner
    | cons d t =>
      by_cases close : c = '*' ∧ d = '/'
      · obtain ⟨rfl, rfl⟩ := close
        simp only [List.cons_append, splitBlock, Prod.mk.injEq, List.cons.injEq, true_and] at cut
        simp [splitBlock, ← cut.1]
      · have inside : ∀ u, ¬ (c = '*' ∧ (d :: t ++ u).head? = some '/') := by simpa using close
        rw [List.cons_append, splitBlock_cons (inside _)] at cut ⊢
        simp only [Prod.mk.injEq, List.cons.injEq, true_and] at cut
        rw [ih (Prod.ext cut.1 cut.2)]

theorem takeWhile_other {q : Char → Bool} {a b other : List Char} (all : (a ++ b).takeWhile q = a)
    (free : ∀ d, other.head? = some d → ¬ q d = true) :
    (a ++ other).takeWhile q = a ∧ (a ++ other).dropWhile q = other := by
  have holds : ∀ d ∈ a, q d = true := by
    intro d mem
    rw [← all] at mem
    exact List.mem_takeWhile_imp mem
  rw [List.takeWhile_append_of_pos holds, List.dropWhile_append_of_pos holds]
  cases other with
  | nil => simp
  | cons d t => simp [free d rfl]

/-- Blanks, words and numbers are runs, which end before what they do not take. -/
theorem run_before {make : List Char → Piece} {q : Char → Bool} {c : Char} {p : Piece}
    {tail rest other : List Char}
    (first : ∀ s, firstPiece c s = (make (c :: s.takeWhile q), s.dropWhile q))
    (run : ∀ s, (make s).text = s ∧ ∀ d, (make s).Takes d ↔ q d = true)
    (text : p.text = c :: tail) (cut : firstPiece c (tail ++ rest) = (p, rest))
    (free : ∀ d, other.head? = some d → ¬ p.Takes d) : firstPiece c (tail ++ other) = (p, other) := by
  rw [first] at cut
  obtain ⟨rfl, _⟩ := Prod.mk.inj cut
  rw [(run _).1] at text
  have all := List.tail_eq_of_cons_eq text
  have ends : ∀ d, other.head? = some d → ¬ q d = true := by
    intro d head takes
    exact free d head (((run _).2 d).mpr takes)
  obtain ⟨take, drop⟩ := takeWhile_other all ends
  rw [first, take, drop, all]

theorem Piece.Stands.before {p : Piece} {rest other : List Char} (stands : p.Stands rest)
    (more : rest ≠ []) (free : ∀ d, other.head? = some d → ¬ p.Takes d) : p.Stands other := by
  obtain ⟨c, tail, text, cut⟩ := stands
  refine ⟨c, tail, text, ?_⟩
  cases start c (tail ++ rest) with
  | blank blank =>
    exact run_before (fun _ => firstPiece_blank blank) (fun _ => ⟨rfl, fun _ => Iff.rfl⟩) text cut free
  | line slash t next =>
    rw [slash, next, firstPiece_line] at cut
    obtain ⟨rfl, rfl⟩ := Prod.mk.inj cut
    cases text
    have ends : splitLine ((splitLine t).1 ++ (splitLine t).2) = splitLine t := by
      rw [splitLine_append]
    rw [List.cons_append, firstPiece_line, splitLine_other ends more]
  | block slash t next =>
    rw [slash, next, firstPiece_block] at cut
    obtain ⟨rfl, rfl⟩ := Prod.mk.inj cut
    cases text
    have ends : splitBlock ((splitBlock t).1 ++ (splitBlock t).2) = splitBlock t := by
      rw [splitBlock_append]
    rw [List.cons_append, firstPiece_block, splitBlock_other ends more]
  | word blank word =>
    exact run_before (fun _ => firstPiece_word blank word) (fun _ => ⟨rfl, fun _ => Iff.rfl⟩) text cut
      free
  | number blank word digit =>
    exact run_before (fun _ => firstPiece_number blank word digit) (fun _ => ⟨rfl, fun _ => Iff.rfl⟩)
      text cut free
  | mark blank word digit alone =>
    rw [firstPiece_mark blank word digit alone] at cut
    obtain ⟨rfl, whole⟩ := Prod.mk.inj cut
    obtain rfl : tail = [] := (List.tail_eq_of_cons_eq text).symm
    refine firstPiece_mark blank word digit ?_
    rintro ⟨slash, next⟩
    rcases next with next | next
    · exact free _ next ⟨slash, .inl rfl⟩
    · exact free _ next ⟨slash, .inr rfl⟩

theorem Piece.Stands.of_head? {p : Piece} {rest other : List Char} (stands : p.Stands rest)
    (same : other.head? = rest.head?) : p.Stands other := by
  cases rest with
  | nil =>
    obtain rfl : other = [] := List.head?_eq_none_iff.mp same
    exact stands
  | cons d t =>
    refine stands.before (List.cons_ne_nil d t) ?_
    intro e head
    obtain rfl : d = e := Option.some.inj (same.symm.trans head)
    exact stands.not_takes

theorem head?_textOf_cons {p : Piece} {rest : List Char} (stands : p.Stands rest)
    (ps : List Piece) : (textOf (p :: ps)).head? = p.text.head? := by
  obtain ⟨c, more, text, _⟩ := stands
  rw [textOf_cons, text]
  rfl

/-- What comes last in `front` is all that has to stand before something else. -/
theorem wellCut_swap {front back other : List Piece} (well : WellCut (front ++ back))
    (stands : ∀ p, front.getLast? = some p → p.Stands (textOf back) → p.Stands (textOf other))
    (more : WellCut other) : WellCut (front ++ other) := by
  induction front with
  | nil => exact more
  | cons q rest ih =>
    cases rest with
    | nil => exact ⟨stands q rfl well.1, more⟩
    | cons r t =>
      have first : r.Stands (textOf (t ++ back)) := well.2.1
      refine ⟨well.1.of_head? ?_, ih well.2 stands⟩
      exact (head?_textOf_cons first (t ++ other)).trans (head?_textOf_cons first (t ++ back)).symm

theorem Piece.Stands.at_end {p : Piece} {rest : List Char} (stands : p.Stands rest) :
    p.Stands [] := by
  cases rest with
  | nil => exact stands
  | cons d t =>
    refine stands.before (List.cons_ne_nil d t) ?_
    intro e head
    cases head

theorem wellCut_front {front back : List Piece} (well : WellCut (front ++ back)) :
    WellCut front := by
  have alone : WellCut (front ++ []) := wellCut_swap well (fun _ _ stands => stands.at_end) trivial
  rwa [List.append_nil] at alone

end SceneGpu.Glsl
