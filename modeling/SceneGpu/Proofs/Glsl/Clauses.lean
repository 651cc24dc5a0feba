import SceneGpu.Glsl.Layout
/-!
What a layout clause is, told without the search for it: the word `layout`, an opening parenthesis
as the next token, and the parenthesis that closes it. The search finds exactly these clauses, from
left to right, up to the first one that is never closed.
-/
namespace SceneGpu.Glsl

def opens (ps : List Piece) : Nat := ps.count (.mark '(')

def closes (ps : List Piece) : Nat := ps.count (.mark ')')

theorem opens_cons (p : Piece) (ps : List Piece) : opens (p :: ps) = opens [p] + opens ps := by
  unfold opens
  rw [← List.count_append, List.singleton_append]

theorem closes_cons (p : Piece) (ps : List Piece) : closes (p :: ps) = closes [p] + closes ps := by
  unfold closes
  rw [← List.count_append, List.singleton_append]

/-- With `depth` parentheses open before it, none is closed that is not open, and all are closed at
its end. -/
structure Level (depth : Nat) (ps : List Piece) : Prop where
  never : ∀ front, front <+: ps → closes front ≤ depth + opens front
  ends : depth + opens ps = closes ps

def Balanced (ps : List Piece) : Prop := Level 0 ps

theorem level_nil : Level 0 [] where
  never front ahead := by
    rw [List.prefix_nil.mp ahead]
    exact Nat.zero_le _
  ends := rfl

theorem level_cons {depth : Nat} {p : Piece} {ps : List Piece} :
    Level depth (p :: ps) ↔
      closes [p] ≤ depth + opens [p] ∧ Level (depth + opens [p] - closes [p]) ps := by
  constructor
  · intro level
    have first := level.never [p] ⟨ps, rfl⟩
    refine ⟨first, ?_, ?_⟩
    · intro front ahead
      have below := level.never (p :: front) (List.cons_prefix_cons.mpr ⟨rfl, ahead⟩)
      rw [opens_cons, closes_cons] at below
      omega
    · have ends := level.ends
      rw [opens_cons, closes_cons] at ends
      omega
  · intro ⟨first, level⟩
    refine ⟨?_, ?_⟩
    · intro front ahead
      rcases List.prefix_cons_iff.mp ahead with rfl | ⟨t, rfl, more⟩
      · exact Nat.zero_le _
      · have below := level.never t more
        rw [opens_cons, closes_cons]
        omega
    · have ends := level.ends
      rw [opens_cons, closes_cons]
      omega

theorem level_open {depth : Nat} {ps : List Piece} :
    Level depth (.mark '(' :: ps) ↔ Level (depth + 1) ps := by
  have one : opens [.mark '('] = 1 := rfl
  have zero : closes [.mark '('] = 0 := rfl
  simp [level_cons, one, zero]

theorem level_close {depth : Nat} {ps : List Piece} :
    Level (depth + 1) (.mark ')' :: ps) ↔ Level depth ps := by
  have one : closes [.mark ')'] = 1 := rfl
  have zero : opens [.mark ')'] = 0 := rfl
  simp [level_cons, one, zero]

theorem not_level_close {ps : List Piece} : ¬ Level 0 (.mark ')' :: ps) := by
  have one : closes [.mark ')'] = 1 := rfl
  have zero : opens [.mark ')'] = 0 := rfl
  simp [level_cons, one, zero]

theorem level_other {depth : Nat} {p : Piece} {ps : List Piece} (notOpen : p ≠ .mark '(')
    (notClose : p ≠ .mark ')') : Level depth (p :: ps) ↔ Level depth ps := by
  have opens : opens [p] = 0 := by simp [opens, notOpen]
  have closes : closes [p] = 0 := by simp [closes, notClose]
  simp [level_cons, opens, closes]

theorem splitClosing_other {depth : Nat} {p : Piece} {ps : List Piece} (notOpen : p ≠ .mark '(')
    (notClose : p ≠ .mark ')') :
    splitClosing depth (p :: ps) = (splitClosing depth ps).map fun r => (p :: r.1, r.2) :=
  splitClosing.eq_5 depth p ps notOpen (fun _ => notClose) (fun _ _ => notClose)

theorem splitClosing_of_level {depth : Nat} {inner after : List Piece} (level : Level depth inner) :
    splitClosing depth (inner ++ .mark ')' :: after) = some (inner ++ [.mark ')'], after) := by
  induction inner generalizing depth with
  | nil =>
    obtain rfl : depth = 0 := level.ends
    rfl
  | cons p rest ih =>
    by_cases isOpen : p = .mark '('
    · subst isOpen
      rw [List.cons_append, splitClosing, ih (level_open.mp level)]
      rfl
    by_cases isClose : p = .mark ')'
    · subst isClose
      cases depth with
      | zero => exact absurd level not_level_close
      | succ depth =>
        rw [List.cons_append, splitClosing, ih (level_close.mp level)]
        rfl
    · have more := ih ((level_other isOpen isClose).mp level)
      rw [List.cons_append, splitClosing_other isOpen isClose, more]
      rfl

theorem splitClosing_eq_none {inside : List Piece}
    (never : ∀ body after, inside = body ++ .mark ')' :: after → ¬ Balanced body) :
    splitClosing 0 inside = none := by
  suffices split : ∀ depth, (∀ body after, inside = body ++ .mark ')' :: after → ¬ Level depth body) →
      splitClosing depth inside = none from split 0 never
  clear never
  induction inside with
  | nil =>
    intro depth _
    rfl
  | cons p rest ih =>
    intro depth never
    by_cases isOpen : p = .mark '('
    · subst isOpen
      have more := ih (depth + 1) (fun body after eq level =>
        never (.mark '(' :: body) after (by rw [eq]; rfl) (level_open.mpr level))
      rw [splitClosing, more]
      rfl
    by_cases isClose : p = .mark ')'
    · subst isClose
      cases depth with
      | zero => exact absurd level_nil (never [] rest rfl)
      | succ depth =>
        have more := ih depth (fun body after eq level =>
          never (.mark ')' :: body) after (by rw [eq]; rfl) (level_close.mpr level))
        rw [splitClosing, more]
        rfl
    · have more := ih depth (fun body after eq level =>
        never (p :: body) after (by rw [eq]; rfl) ((level_other isOpen isClose).mpr level))
      rw [splitClosing_other isOpen isClose, more]
      rfl

def Silent (ps : List Piece) : Prop := ∀ p ∈ ps, p.isToken = false

theorem splitOpening_silent {gap inside : List Piece} (silent : Silent gap) :
    splitOpening (gap ++ .mark '(' :: inside) = some (gap ++ [.mark '('], inside) := by
  induction gap with
  | nil => rfl
  | cons p rest ih =>
    have first := silent p List.mem_cons_self
    have more := ih fun q mem => silent q (List.mem_cons_of_mem p mem)
    cases p with
    | blank run => rw [List.cons_append, splitOpening, more]; rfl
    | comment text => rw [List.cons_append, splitOpening, more]; rfl
    | word w => cases first
    | number n => cases first
    | mark c => cases first

theorem splitOpening_eq_none {ps : List Piece}
    (never : ∀ gap inside, Silent gap → ps ≠ gap ++ .mark '(' :: inside) :
    splitOpening ps = none := by
  induction ps with
  | nil => rfl
  | cons p rest ih =>
    have more (first : p.isToken = false) : splitOpening rest = none := by
      refine ih ?_
      rintro gap inside silent rfl
      refine never (p :: gap) inside ?_ rfl
      intro q mem
      rcases List.mem_cons.mp mem with rfl | mem
      · exact first
      · exact silent q mem
    cases p with
    | blank run => rw [splitOpening, more rfl]; rfl
    | comment text => rw [splitOpening, more rfl]; rfl
    | word w => rfl
    | number n => rfl
    | mark c =>
      by_cases isOpen : c = '('
      · subst isOpen
        exact absurd rfl (never [] rest (fun q mem => by cases mem))
      · rw [splitOpening]
        all_goals simp [isOpen]

/-- The word `layout` with an opening parenthesis as the next token, and what comes behind that. -/
def Opens (ps inside : List Piece) : Prop :=
  ∃ gap, Silent gap ∧ ps = .word layoutWord :: (gap ++ .mark '(' :: inside)

@[simp] theorem tokens_blank (run : List Char) (ps : List Piece) :
    tokens (.blank run :: ps) = tokens ps := rfl

@[simp] theorem tokens_comment (text : List Char) (ps : List Piece) :
    tokens (.comment text :: ps) = tokens ps := rfl

@[simp] theorem tokens_word (w : List Char) (ps : List Piece) :
    tokens (.word w :: ps) = .word w :: tokens ps := rfl

@[simp] theorem tokens_number (n : List Char) (ps : List Piece) :
    tokens (.number n :: ps) = .number n :: tokens ps := rfl

@[simp] theorem tokens_mark (c : Char) (ps : List Piece) :
    tokens (.mark c :: ps) = .mark c :: tokens ps := rfl

theorem tokens_append (ps qs : List Piece) : tokens (ps ++ qs) = tokens ps ++ tokens qs :=
  List.filter_append ps qs

theorem tokens_silent {gap : List Piece} (silent : Silent gap) : tokens gap = [] := by
  refine List.filter_eq_nil_iff.mpr ?_
  intro p mem
  rw [silent p mem]
  exact Bool.false_ne_true

theorem exists_silent {p : Piece} {ps : List Piece} (head : (tokens ps).head? = some p) :
    ∃ gap rest, Silent gap ∧ ps = gap ++ p :: rest := by
  induction ps with
  | nil => cases head
  | cons q more ih =>
    cases token : q.isToken with
    | true =>
      rw [tokens, List.filter_cons_of_pos token, List.head?_cons, Option.some.injEq] at head
      refine ⟨[], more, ?_, by rw [head]; rfl⟩
      intro r mem
      cases mem
    | false =>
      rw [tokens, List.filter_cons_of_neg (by simp [token])] at head
      obtain ⟨gap, rest, silent, rfl⟩ := ih head
      refine ⟨q :: gap, rest, ?_, rfl⟩
      intro r mem
      rcases List.mem_cons.mp mem with rfl | mem
      · exact token
      · exact silent r mem

theorem exists_opens_iff {p : Piece} {ps : List Piece} :
    (∃ inside, Opens (p :: ps) inside) ↔
      p = .word layoutWord ∧ (tokens ps).head? = some (.mark '(') := by
  constructor
  · rintro ⟨inside, gap, silent, whole⟩
    obtain ⟨rfl, rfl⟩ := List.cons.inj whole
    refine ⟨rfl, ?_⟩
    rw [tokens_append, tokens_silent silent]
    rfl
  · rintro ⟨rfl, head⟩
    obtain ⟨gap, rest, silent, rfl⟩ := exists_silent head
    exact ⟨rest, gap, silent, rfl⟩

def Piece.word? : Piece → Option (List Char)
  | .word w => some w
  | _ => none

def firstWords (parts : List (List Piece)) : List (List Char) :=
  parts.filterMap fun part => part.head?.bind Piece.word?

/-- The words that stand first between the commas. -/
def leadingWords (body : List Piece) : List (List Char) :=
  firstWords ((tokens body).splitOn (.mark ','))

def headWords (ts : List Piece) : List (List Char) :=
  (ts.takeWhile fun p => p ≠ .mark ';' ∧ p ≠ .mark '\x7b').filterMap Piece.word?

def declaredWords (after : List Piece) : List (List Char) := headWords (tokens after)

theorem headOf_eq (ps : List Piece) : headOf ps = declaredWords ps := by
  unfold declaredWords headWords
  fun_induction headOf ps with
  | case1 => rfl
  | case2 => simp
  | case3 => simp
  | case4 w rest ih => simp [Piece.word?, ih]
  | case5 p rest semi brace word ih =>
    rw [ih]
    cases p with
    | word w => exact absurd rfl (word w)
    | blank run => rfl
    | comment text => rfl
    | number n => simp [List.filterMap_cons, Piece.word?]
    | mark c =>
      have semi : c ≠ ';' := by simpa using semi
      have brace : c ≠ '\x7b' := by simpa using brace
      simp [List.filterMap_cons, Piece.word?, semi, brace]

theorem splitOn_cons_other {p : Piece} (comma : p ≠ .mark ',') (ps : List Piece) :
    ∃ part parts, ps.splitOn (.mark ',') = part :: parts ∧
      (p :: ps).splitOn (.mark ',') = (p :: part) :: parts := by
  obtain ⟨part, parts, eq⟩ := List.exists_cons_of_ne_nil (List.splitOn_ne_nil (.mark ',') ps)
  refine ⟨part, parts, eq, ?_⟩
  rw [List.splitOn_cons_eq_if_modifyHead, eq]
  simp [comma]

theorem keysOf_parts (expected : Bool) (ps : List Piece) :
    keysOf expected ps =
      firstWords (((tokens ps).splitOn (.mark ',')).drop (if expected then 0 else 1)) := by
  fun_induction keysOf expected ps with
  | case1 expected => cases expected <;> rfl
  | case2 expected rest ih =>
    rw [ih, tokens_mark, List.splitOn_cons_eq_if_modifyHead]
    cases expected <;> simp [firstWords, List.filterMap_cons]
  | case3 w rest ih =>
    obtain ⟨part, parts, eq, next⟩ := splitOn_cons_other (p := .word w) (by simp) (tokens rest)
    rw [ih, tokens_word, next, eq]
    simp [firstWords, Piece.word?]
  | case4 => simpa
  | case5 => simpa
  | case6 expected p rest comma word blank comment ih =>
    have token : tokens (p :: rest) = p :: tokens rest := by
      cases p with
      | blank run => exact absurd rfl (blank run)
      | comment text => exact absurd rfl (comment text)
      | word w => rfl
      | number n => rfl
      | mark c => rfl
    obtain ⟨part, parts, eq, next⟩ := splitOn_cons_other comma (tokens rest)
    rw [ih, token, next, eq]
    cases expected with
    | false => simp
    | true =>
      have noWord : p.word? = none := by
        cases p with
        | word w => exact absurd rfl (word w rfl)
        | _ => rfl
      simp [firstWords, noWord]

theorem keysOf_eq (body : List Piece) : keysOf true body = leadingWords body :=
  keysOf_parts true body

def Clause.Spans (c : Clause) (after : List Piece) : Prop :=
  ∃ gap body, Silent gap ∧ Balanced body ∧
    c.pieces = .word layoutWord :: (gap ++ .mark '(' :: (body ++ [.mark ')'])) ∧
    c.keys = leadingWords body ∧ c.head = declaredWords after

structure Passage where
  clause : Clause
  gap : List Piece
deriving DecidableEq, Repr

def Passage.pieces (p : Passage) : List Piece := p.clause.pieces ++ p.gap

/-- The clauses among the pieces, from left to right, with the pieces that lead up to the first. -/
inductive Found : List Piece → List Piece → List Passage → Prop
  | nil : Found [] [] []
  | plain {p : Piece} {rest lead : List Piece} {passages : List Passage}
      (other : ∀ inside, ¬ Opens (p :: rest) inside) (more : Found rest lead passages) :
      Found (p :: rest) (p :: lead) passages
  | unclosed {ps inside : List Piece} (opens : Opens ps inside)
      (never : ∀ body after, inside = body ++ .mark ')' :: after → ¬ Balanced body) : Found ps ps []
  | clause {c : Clause} {after lead : List Piece} {passages : List Passage} (spans : c.Spans after)
      (more : Found after lead passages) : Found (c.pieces ++ after) [] (⟨c, lead⟩ :: passages)

theorem Found.pieces_eq {ps lead : List Piece} {passages : List Passage}
    (found : Found ps lead passages) : ps = lead ++ passages.flatMap Passage.pieces := by
  induction found with
  | nil => rfl
  | plain _ _ ih => rw [ih]; rfl
  | unclosed _ _ => simp
  | clause _ _ ih => simp [ih, Passage.pieces]

theorem Found.spans {ps lead : List Piece} {passages : List Passage}
    (found : Found ps lead passages) : ∀ q ∈ passages, ∃ after, q.clause.Spans after := by
  induction found with
  | nil =>
    intro q mem
    cases mem
  | plain _ _ ih => exact ih
  | unclosed _ _ =>
    intro q mem
    cases mem
  | clause spans _ ih =>
    intro q mem
    rcases List.mem_cons.mp mem with rfl | mem
    · exact ⟨_, spans⟩
    · exact ih q mem

theorem exists_found (ps : List Piece) : ∃ lead passages, Found ps lead passages := by
  induction size : ps.length using Nat.strongRecOn generalizing ps with
  | ind n ih =>
    cases ps with
    | nil => exact ⟨[], [], .nil⟩
    | cons p rest =>
      by_cases opens : ∃ inside, Opens (p :: rest) inside
      · obtain ⟨inside, gap, silent, whole⟩ := opens
        by_cases closes : ∃ body after, inside = body ++ .mark ')' :: after ∧ Balanced body
        · obtain ⟨body, after, rfl, balanced⟩ := closes
          have shorter : after.length < n := by
            rw [← size, whole]
            simp
            omega
          obtain ⟨lead, passages, more⟩ := ih after.length shorter after rfl
          let c : Clause := ⟨.word layoutWord :: (gap ++ .mark '(' :: (body ++ [.mark ')'])),
            leadingWords body, declaredWords after⟩
          have spans : c.Spans after := ⟨gap, body, silent, balanced, rfl, rfl, rfl⟩
          have split : p :: rest = c.pieces ++ after := by simp [whole, c]
          refine ⟨[], ⟨c, lead⟩ :: passages, ?_⟩
          rw [split]
          exact .clause spans more
        · refine ⟨_, _, .unclosed ⟨gap, silent, whole⟩ ?_⟩
          intro body after eq balanced
          exact closes ⟨body, after, eq, balanced⟩
      · obtain ⟨lead, passages, more⟩ := ih rest.length (by simp at size; omega) rest rfl
        refine ⟨_, _, .plain ?_ more⟩
        intro inside here
        exact opens ⟨inside, here⟩

section Search

variable {rest : List Piece}

theorem opening_absent (other : ∀ inside, ¬ Opens (.word layoutWord :: rest) inside) :
    opening rest = .absent := by
  have none_ : splitOpening rest = none := by
    refine splitOpening_eq_none ?_
    rintro gap inside silent rfl
    exact other inside ⟨gap, silent, rfl⟩
  unfold opening
  rw [none_]

theorem opening_unclosed {inside : List Piece} (opens : Opens (.word layoutWord :: rest) inside)
    (never : ∀ body after, inside = body ++ .mark ')' :: after → ¬ Balanced body) :
    opening rest = .unclosed := by
  obtain ⟨gap, silent, whole⟩ := opens
  obtain rfl := List.tail_eq_of_cons_eq whole
  unfold opening
  rw [splitOpening_silent silent]
  dsimp only
  rw [splitClosing_eq_none never]

theorem Clause.Spans.opening {c : Clause} {after : List Piece} (spans : c.Spans after) :
    ∃ rest, c.pieces ++ after = .word layoutWord :: rest ∧ opening rest = .closed c after := by
  obtain ⟨all, keys, head⟩ := c
  obtain ⟨gap, body, silent, balanced, rfl, rfl, rfl⟩ := spans
  refine ⟨gap ++ .mark '(' :: (body ++ .mark ')' :: after), by simp, ?_⟩
  have split : splitClosing 0 (body ++ .mark ')' :: after) = some (body ++ [.mark ')'], after) :=
    splitClosing_of_level balanced
  unfold Glsl.opening
  rw [splitOpening_silent silent]
  dsimp only
  rw [split]
  dsimp only
  rw [List.dropLast_concat, keysOf_eq, headOf_eq]
  simp

end Search

def Passage.segments (p : Passage) : List Segment := .clause p.clause :: p.gap.map .plain

def shown (lead : List Piece) (passages : List Passage) : List Segment :=
  lead.map .plain ++ passages.flatMap Passage.segments

theorem segments_layout (rest : List Piece) :
    segments (.word layoutWord :: rest) =
      match opening rest with
      | .absent => .plain (.word layoutWord) :: segments rest
      | .unclosed => (.word layoutWord :: rest).map .plain
      | .closed c after => .clause c :: segments after := by
  rw [segments, if_pos rfl]
  split
  · rename_i found
    rw [found]
  · rename_i found
    rw [found]
  · rename_i found
    rw [found]

theorem segments_plain {p : Piece} {rest : List Piece} (other : ∀ inside, ¬ Opens (p :: rest) inside) :
    segments (p :: rest) = .plain p :: segments rest := by
  by_cases layout : p = .word layoutWord
  · subst layout
    rw [segments_layout, opening_absent other]
  · rw [segments, if_neg layout]

theorem segments_unclosed {ps inside : List Piece} (opens : Opens ps inside)
    (never : ∀ body after, inside = body ++ .mark ')' :: after → ¬ Balanced body) :
    segments ps = ps.map .plain := by
  obtain ⟨gap, silent, rfl⟩ := opens
  rw [segments_layout, opening_unclosed ⟨gap, silent, rfl⟩ never]

theorem segments_clause {c : Clause} {after : List Piece} (spans : c.Spans after) :
    segments (c.pieces ++ after) = .clause c :: segments after := by
  obtain ⟨rest, whole, closed⟩ := spans.opening
  rw [whole, segments_layout, closed]

theorem Found.segments_eq {ps lead : List Piece} {passages : List Passage}
    (found : Found ps lead passages) : Glsl.segments ps = shown lead passages := by
  induction found with
  | nil => rw [Glsl.segments]; rfl
  | plain other _ ih => rw [segments_plain other, ih]; rfl
  | unclosed opens never => rw [segments_unclosed opens never]; simp [shown]
  | clause spans _ ih => rw [segments_clause spans, ih]; rfl

def gather : List Segment → List Piece × List Passage
  | [] => ([], [])
  | .plain p :: rest => (p :: (gather rest).1, (gather rest).2)
  | .clause c :: rest => ([], ⟨c, (gather rest).1⟩ :: (gather rest).2)

theorem gather_shown (lead : List Piece) (passages : List Passage) :
    gather (shown lead passages) = (lead, passages) := by
  induction passages generalizing lead with
  | nil =>
    induction lead with
    | nil => rfl
    | cons p rest ih => exact congrArg (fun r => (p :: r.1, r.2)) ih
  | cons q more ih =>
    have inner := ih q.gap
    induction lead with
    | nil => exact congrArg (fun r => ([], ⟨q.clause, r.1⟩ :: r.2)) inner
    | cons p rest ih => exact congrArg (fun r => (p :: r.1, r.2)) ih

theorem Found.unique {ps lead lead' : List Piece} {passages passages' : List Passage}
    (found : Found ps lead passages) (other : Found ps lead' passages') :
    lead' = lead ∧ passages' = passages := by
  have same : (lead, passages) = (lead', passages') := by
    rw [← gather_shown, ← found.segments_eq, other.segments_eq, gather_shown]
  exact ⟨(congrArg Prod.fst same).symm, (congrArg Prod.snd same).symm⟩

theorem found_gather (ps : List Piece) :
    Found ps (gather (segments ps)).1 (gather (segments ps)).2 := by
  obtain ⟨lead, passages, found⟩ := exists_found ps
  rw [found.segments_eq, gather_shown]
  exact found

theorem filterMap_shown {f : Segment → Option Clause} (plain : ∀ p, f (.plain p) = none)
    (clause : ∀ c, f (.clause c) = some c) (lead : List Piece) (passages : List Passage) :
    (shown lead passages).filterMap f = passages.map Passage.clause := by
  have gap (ps : List Piece) : (ps.map Segment.plain).filterMap f = [] := by
    simp [List.filterMap_map, plain]
  rw [shown, List.filterMap_append, gap, List.nil_append]
  induction passages with
  | nil => rfl
  | cons q more ih =>
    rw [List.flatMap_cons, List.filterMap_append, ih, Passage.segments,
      List.filterMap_cons_some (clause q.clause), gap]
    rfl

theorem clauses_eq {source : List Char} {lead : List Piece} {passages : List Passage}
    (found : Found (pieces source) lead passages) :
    clauses source = passages.map Passage.clause := by
  unfold clauses
  rw [found.segments_eq]
  exact filterMap_shown (fun _ => rfl) (fun _ => rfl) lead passages

end SceneGpu.Glsl
