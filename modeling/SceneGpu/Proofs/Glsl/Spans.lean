import SceneGpu.Proofs.Glsl.Cut
import SceneGpu.Text.Utf8
/-!
Places in a source, counted in bytes. A scanner that looks one character ahead goes through the characters
and their places once; the spans it finds are those of the pieces that are tokens.
-/
namespace SceneGpu.Glsl

def width (s : List Char) : Nat := (Utf8.encode s).length

theorem width_nil : width [] = 0 := rfl

theorem width_append (s t : List Char) : width (s ++ t) = width s + width t := by
  simp [width, Utf8.encode]

theorem width_cons (c : Char) (s : List Char) : width (c :: s) = c.utf8Size + width s := by
  simp [width, Utf8.encode, String.length_utf8EncodeChar]

theorem width_pos {s : List Char} (some_ : s ≠ []) : 0 < width s := by
  obtain ⟨c, t, rfl⟩ := List.exists_cons_of_ne_nil some_
  rw [width_cons]
  exact Nat.lt_of_lt_of_le c.utf8Size_pos (Nat.le_add_right _ _)

@[ext] structure Span where
  start : Nat
  stop : Nat
deriving DecidableEq, Repr

namespace Span

/-- Both ends of the span lie between characters, and this text stands there. -/
def Cuts (k : Span) (source text : List Char) : Prop :=
  ∃ front back, source = front ++ (text ++ back) ∧ k.start = width front ∧
    k.stop = width front + width text

def Holds (k : Span) (place : Nat) : Prop := k.start ≤ place ∧ place < k.stop

def Before (k l : Span) : Prop := k.stop ≤ l.start

end Span

def splitAt? : Nat → List Char → Option (List Char × List Char)
  | 0, s => some ([], s)
  | _ + 1, [] => none
  | n + 1, c :: rest =>
    if n + 1 < c.utf8Size then none
    else (splitAt? (n + 1 - c.utf8Size) rest).map fun r => (c :: r.1, r.2)

/-- The text between the ends of a span; nothing if it ends before it starts, past the end of the source, or
inside a character. -/
def Span.text? (k : Span) (source : List Char) : Option (List Char) := do
  let (front, _) ← splitAt? k.stop source
  let (_, text) ← splitAt? k.start front
  return text

theorem splitAt?_width (front back : List Char) :
    splitAt? (width front) (front ++ back) = some (front, back) := by
  induction front with
  | nil =>
    rw [width_nil, splitAt?]
    rfl
  | cons c t ih =>
    have pos := c.utf8Size_pos
    obtain ⟨n, long⟩ : ∃ n, c.utf8Size + width t = n + 1 :=
      Nat.exists_eq_succ_of_ne_zero (by omega)
    rw [width_cons, long, List.cons_append, splitAt?, if_neg (by omega), ← long,
      Nat.add_sub_cancel_left, ih]
    rfl

theorem append_of_splitAt? {n : Nat} {s front back : List Char}
    (split : splitAt? n s = some (front, back)) : s = front ++ back ∧ width front = n := by
  fun_induction splitAt? n s generalizing front with
  | case1 s =>
    cases split
    exact ⟨rfl, rfl⟩
  | case2 => cases split
  | case3 n c rest inside => cases split
  | case4 n c rest inside ih =>
    obtain ⟨⟨a, b⟩, found, same⟩ := Option.map_eq_some_iff.mp split
    cases same
    obtain ⟨rfl, long⟩ := ih found
    refine ⟨rfl, ?_⟩
    rw [width_cons, long]
    omega

theorem splitAt?_eq_some_iff {n : Nat} {s front back : List Char} :
    splitAt? n s = some (front, back) ↔ s = front ++ back ∧ width front = n := by
  constructor
  · exact append_of_splitAt?
  · rintro ⟨rfl, rfl⟩
    exact splitAt?_width front back

theorem append_inj_of_width {front back other rest : List Char} (same : width front = width other)
    (whole : front ++ back = other ++ rest) : front = other ∧ back = rest := by
  have first : splitAt? (width other) (front ++ back) = some (front, back) :=
    splitAt?_eq_some_iff.mpr ⟨rfl, same⟩
  have second : splitAt? (width other) (front ++ back) = some (other, rest) :=
    splitAt?_eq_some_iff.mpr ⟨whole, rfl⟩
  exact Prod.mk.inj (Option.some.inj (first.symm.trans second))

theorem Span.text?_eq_some_iff {k : Span} {source text : List Char} :
    k.text? source = some text ↔ k.Cuts source text := by
  unfold Span.text?
  constructor
  · intro found
    obtain ⟨⟨upTo, back⟩, last, found⟩ := Option.bind_eq_some_iff.mp found
    obtain ⟨⟨front, _⟩, first, same⟩ := Option.bind_eq_some_iff.mp found
    cases same
    obtain ⟨rfl, stop⟩ := splitAt?_eq_some_iff.mp last
    obtain ⟨rfl, start⟩ := splitAt?_eq_some_iff.mp first
    rw [width_append] at stop
    exact ⟨front, back, by rw [List.append_assoc], start.symm, stop.symm⟩
  · rintro ⟨front, back, rfl, start, stop⟩
    have last : splitAt? k.stop (front ++ (text ++ back)) = some (front ++ text, back) :=
      splitAt?_eq_some_iff.mpr ⟨by rw [List.append_assoc], by rw [width_append, stop]⟩
    have first : splitAt? k.start (front ++ text) = some (front, text) :=
      splitAt?_eq_some_iff.mpr ⟨rfl, start.symm⟩
    rw [last]
    change (splitAt? k.start (front ++ text)).bind _ = _
    rw [first]
    rfl

inductive TokenKind where
  | ident
  | number
  | punct (c : Char)
deriving DecidableEq, Repr

@[ext] structure Token where
  kind : TokenKind
  span : Span
deriving DecidableEq, Repr

def charsFrom : Nat → List Char → List (Nat × Char)
  | _, [] => []
  | place, c :: rest => (place, c) :: charsFrom (place + c.utf8Size) rest

def skipLine : List (Nat × Char) → List (Nat × Char)
  | [] => []
  | (_, c) :: rest => if c = '\n' then rest else skipLine rest

def skipBlock (previous : Char) : List (Nat × Char) → List (Nat × Char)
  | [] => []
  | (_, c) :: rest => if previous = '*' ∧ c = '/' then rest else skipBlock c rest

/-- Where a run ends that came to `stop` so far, and what follows it. -/
def runFrom (continues : Char → Bool) (stop : Nat) : List (Nat × Char) → Nat × List (Nat × Char)
  | [] => (stop, [])
  | (place, c) :: rest =>
    if continues c then runFrom continues (place + c.utf8Size) rest else (stop, (place, c) :: rest)

theorem skipLine_length_le (cs : List (Nat × Char)) : (skipLine cs).length ≤ cs.length := by
  induction cs with
  | nil => exact Nat.le_refl 0
  | cons c rest ih =>
    rw [skipLine]
    split
    · exact Nat.le_succ _
    · exact Nat.le_succ_of_le ih

theorem skipBlock_length_le (previous : Char) (cs : List (Nat × Char)) :
    (skipBlock previous cs).length ≤ cs.length := by
  induction cs generalizing previous with
  | nil => exact Nat.le_refl 0
  | cons c rest ih =>
    rw [skipBlock]
    split
    · exact Nat.le_succ _
    · exact Nat.le_succ_of_le (ih _)

theorem runFrom_length_le (continues : Char → Bool) (stop : Nat) (cs : List (Nat × Char)) :
    (runFrom continues stop cs).2.length ≤ cs.length := by
  induction cs generalizing stop with
  | nil => exact Nat.le_refl 0
  | cons c rest ih =>
    rw [runFrom]
    split
    · exact Nat.le_succ_of_le (ih _)
    · exact Nat.le_refl _

def tokensFrom : List (Nat × Char) → List Token
  | [] => []
  | (place, c) :: rest =>
    if Text.isBlank c then tokensFrom rest
    else if c = '/' ∧ (rest.head?.map Prod.snd) = some '/' then tokensFrom (skipLine rest)
    else if c = '/' ∧ (rest.head?.map Prod.snd) = some '*' then
      tokensFrom (skipBlock '\x00' rest.tail)
    else if isWordStart c then
      let r := runFrom isWordPart (place + c.utf8Size) rest
      ⟨.ident, place, r.1⟩ :: tokensFrom r.2
    else if c.isDigit then
      let r := runFrom isNumberPart (place + c.utf8Size) rest
      ⟨.number, place, r.1⟩ :: tokensFrom r.2
    else ⟨.punct c, place, place + c.utf8Size⟩ :: tokensFrom rest
termination_by cs => cs.length
decreasing_by
  · simp
  · exact Nat.lt_succ_of_le (skipLine_length_le rest)
  · have tail : rest.tail.length ≤ rest.length := by simp
    exact Nat.lt_succ_of_le (Nat.le_trans (skipBlock_length_le _ _) tail)
  · exact Nat.lt_succ_of_le (runFrom_length_le _ _ rest)
  · exact Nat.lt_succ_of_le (runFrom_length_le _ _ rest)
  · simp

def tokenize (source : List Char) : List Token := tokensFrom (charsFrom 0 source)

def Piece.kind? : Piece → Option TokenKind
  | .word _ => some .ident
  | .number _ => some .number
  | .mark c => some (.punct c)
  | _ => none

def placedFrom : Nat → List Piece → List (Span × Piece)
  | _, [] => []
  | place, p :: rest =>
    (⟨place, place + width p.text⟩, p) :: placedFrom (place + width p.text) rest

def tokenAt? (e : Span × Piece) : Option Token := e.2.kind?.map fun kind => ⟨kind, e.1⟩

def spansFrom (place : Nat) (ps : List Piece) : List Token := (placedFrom place ps).filterMap tokenAt?

theorem spansFrom_nil (place : Nat) : spansFrom place [] = [] := rfl

theorem spansFrom_cons (place : Nat) (p : Piece) (rest : List Piece) :
    spansFrom place (p :: rest) =
      (tokenAt? (⟨place, place + width p.text⟩, p)).toList ++ spansFrom (place + width p.text) rest := by
  unfold spansFrom
  rw [placedFrom, List.filterMap_cons]
  cases tokenAt? (⟨place, place + width p.text⟩, p) <;> rfl

theorem placedFrom_append (place : Nat) (front back : List Piece) :
    placedFrom place (front ++ back) =
      placedFrom place front ++ placedFrom (place + width (textOf front)) back := by
  induction front generalizing place with
  | nil => rfl
  | cons p rest ih =>
    rw [List.cons_append, placedFrom, ih, placedFrom, textOf_cons, width_append, Nat.add_assoc]
    rfl

theorem spansFrom_append (place : Nat) (front back : List Piece) :
    spansFrom place (front ++ back) =
      spansFrom place front ++ spansFrom (place + width (textOf front)) back := by
  rw [spansFrom, placedFrom_append, List.filterMap_append]
  rfl

theorem spansFrom_token {p : Piece} {kind : TokenKind} (place : Nat) (token : p.kind? = some kind)
    (rest : List Piece) : spansFrom place (p :: rest) =
      ⟨kind, place, place + width p.text⟩ :: spansFrom (place + width p.text) rest := by
  rw [spansFrom_cons, tokenAt?, token]
  rfl

theorem spansFrom_other {p : Piece} (place : Nat) (other : p.kind? = none) (rest : List Piece) :
    spansFrom place (p :: rest) = spansFrom (place + width p.text) rest := by
  rw [spansFrom_cons, tokenAt?, other]
  rfl

section Scanner

variable (place : Nat) (s : List Char)

theorem head?_charsFrom : (charsFrom place s).head?.map Prod.snd = s.head? := by
  cases s <;> rfl

theorem skipLine_charsFrom :
    skipLine (charsFrom place s) = charsFrom (place + width (splitLine s).1) (splitLine s).2 := by
  induction s generalizing place with
  | nil => rfl
  | cons c rest ih =>
    rw [charsFrom, skipLine, splitLine]
    split
    · rw [width_cons, width_nil, Nat.add_zero]
    · dsimp only
      rw [ih, width_cons, Nat.add_assoc]

theorem skipBlock_charsFrom {previous : Char} (inside : ¬ (previous = '*' ∧ s.head? = some '/')) :
    skipBlock previous (charsFrom place s) =
      charsFrom (place + width (splitBlock s).1) (splitBlock s).2 := by
  induction s generalizing place previous with
  | nil => rfl
  | cons c rest ih =>
    have more : ¬ (previous = '*' ∧ c = '/') := by simpa using inside
    rw [charsFrom, skipBlock, if_neg more]
    by_cases closes : c = '*' ∧ rest.head? = some '/'
    · obtain ⟨rfl, slash⟩ := closes
      obtain ⟨t, rfl⟩ := List.head?_eq_some_iff.mp slash
      rw [charsFrom, skipBlock, if_pos ⟨rfl, rfl⟩, splitBlock, width_cons, width_cons, width_nil,
        Nat.add_assoc]
      rfl
    · rw [ih _ closes, splitBlock_cons closes, width_cons, Nat.add_assoc]

theorem runFrom_charsFrom (continues : Char → Bool) :
    runFrom continues place (charsFrom place s) =
      (place + width (s.takeWhile continues),
        charsFrom (place + width (s.takeWhile continues)) (s.dropWhile continues)) := by
  induction s generalizing place with
  | nil => rfl
  | cons c rest ih =>
    rw [charsFrom, runFrom]
    split
    · rename_i more
      rw [ih, List.takeWhile_cons_of_pos more, List.dropWhile_cons_of_pos more, width_cons,
        Nat.add_assoc]
    · rename_i ends
      rw [List.takeWhile_cons_of_neg ends, List.dropWhile_cons_of_neg ends]
      rfl

theorem tokensFrom_blanks :
    tokensFrom (charsFrom place s) =
      tokensFrom (charsFrom (place + width (s.takeWhile Text.isBlank)) (s.dropWhile Text.isBlank)) := by
  induction s generalizing place with
  | nil => rfl
  | cons c rest ih =>
    cases blank : Text.isBlank c with
    | true =>
      rw [charsFrom, tokensFrom, if_pos blank, ih, List.takeWhile_cons_of_pos blank,
        List.dropWhile_cons_of_pos blank, width_cons, Nat.add_assoc]
    | false =>
      rw [List.takeWhile_cons_of_neg (by simp [blank]), List.dropWhile_cons_of_neg (by simp [blank])]
      rfl

end Scanner

theorem tokensFrom_charsFrom (place : Nat) (s : List Char) :
    tokensFrom (charsFrom place s) = spansFrom place (pieces s) := by
  induction size : s.length using Nat.strongRecOn generalizing place s with
  | ind size ih =>
    cases s with
    | nil =>
      rw [pieces, charsFrom, tokensFrom]
      rfl
    | cons c rest =>
      have shorter := Nat.lt_succ_of_le (firstPiece_length_le c rest)
      have behind := fun place => ih _ (size ▸ shorter) place (firstPiece c rest).2 rfl
      rw [pieces, spansFrom_cons, ← behind]
      clear behind ih
      cases start c rest with
      | blank blank =>
        rw [charsFrom, tokensFrom, if_pos blank, tokensFrom_blanks, firstPiece_blank blank]
        simp [tokenAt?, Piece.kind?, Piece.text, width_cons, Nat.add_assoc]
      | line slash t next =>
        subst slash next
        rw [charsFrom, tokensFrom, head?_charsFrom, if_neg (by simp [isBlank_slash]), if_pos ⟨rfl, rfl⟩,
          charsFrom, skipLine, if_neg (by decide), skipLine_charsFrom, firstPiece_line]
        simp [tokenAt?, Piece.kind?, Piece.text, width_cons, Nat.add_assoc]
      | block slash t next =>
        subst slash next
        rw [charsFrom, tokensFrom, head?_charsFrom, if_neg (by simp [isBlank_slash]), if_neg (by simp),
          if_pos ⟨rfl, rfl⟩, charsFrom, List.tail_cons, skipBlock_charsFrom _ _ (by simp),
          firstPiece_block]
        simp [tokenAt?, Piece.kind?, Piece.text, width_cons, Nat.add_assoc]
      | word blank word =>
        have slash : c ≠ '/' := by
          rintro rfl
          exact absurd word (by decide)
        rw [charsFrom, tokensFrom, if_neg (by simp [blank]), if_neg (by simp [slash]),
          if_neg (by simp [slash]), if_pos word, runFrom_charsFrom, firstPiece_word blank word]
        simp [tokenAt?, Piece.kind?, Piece.text, width_cons, Nat.add_assoc]
      | number blank word digit =>
        have slash : c ≠ '/' := by
          rintro rfl
          exact absurd digit (by decide)
        rw [charsFrom, tokensFrom, if_neg (by simp [blank]), if_neg (by simp [slash]),
          if_neg (by simp [slash]), if_neg (by simp [word]), if_pos digit, runFrom_charsFrom,
          firstPiece_number blank word digit]
        simp [tokenAt?, Piece.kind?, Piece.text, width_cons, Nat.add_assoc]
      | mark blank word digit alone =>
        have line : ¬ (c = '/' ∧ rest.head? = some '/') := fun h => alone ⟨h.1, .inl h.2⟩
        have block : ¬ (c = '/' ∧ rest.head? = some '*') := fun h => alone ⟨h.1, .inr h.2⟩
        rw [charsFrom, tokensFrom, head?_charsFrom, if_neg (by simp [blank]), if_neg line,
          if_neg block, if_neg (by simp [word]), if_neg (by simp [digit]),
          firstPiece_mark blank word digit alone]
        simp [tokenAt?, Piece.kind?, Piece.text, width_cons, width_nil]

theorem tokenize_eq (source : List Char) : tokenize source = spansFrom 0 (pieces source) :=
  tokensFrom_charsFrom 0 source

end SceneGpu.Glsl
