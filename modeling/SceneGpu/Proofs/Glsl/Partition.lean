import SceneGpu.Proofs.Collection.Lists
import SceneGpu.Proofs.Glsl.Edit
import SceneGpu.Proofs.Glsl.Spans
/-!
What the scanner makes of a source: tokens one behind the other, comments apart from them, and blanks. Each
token is as wide as it can be, since the piece that holds its first character ends only before a character
that it does not take.
-/
namespace SceneGpu.Glsl

/-- A comment, and what follows it: a line comment ends behind the line break, a block behind the first `*/`
after its opening, either one at the end of the text. -/
inductive Comment : List Char → List Char → Prop
  | line {body rest : List Char} (inside : '\n' ∉ body) :
      Comment ('/' :: '/' :: (body ++ ['\n'])) rest
  | lastLine {body : List Char} (inside : '\n' ∉ body) : Comment ('/' :: '/' :: body) []
  | block {body rest : List Char} (first : ¬ ['*', '/'] <:+: body ++ ['*']) :
      Comment ('/' :: '*' :: (body ++ ['*', '/'])) rest
  | lastBlock {body : List Char} (never : ¬ ['*', '/'] <:+: body) : Comment ('/' :: '*' :: body) []

namespace TokenKind

def Opens : TokenKind → Char → Prop
  | .ident, c => isWordStart c = true
  | .number, c => c.isDigit = true
  | .punct d, c => c = d ∧ Text.isBlank c = false ∧ isWordStart c = false ∧ c.isDigit = false

def Carries : TokenKind → Char → Prop
  | .ident, c => isWordPart c = true
  | .number, c => isNumberPart c = true
  | .punct _, _ => False

def Fits (kind : TokenKind) (text : List Char) : Prop :=
  ∃ c more, text = c :: more ∧ kind.Opens c ∧ ∀ d ∈ more, kind.Carries d

end TokenKind

/-- A source taken apart into tokens, comments and blanks. -/
structure Scanned (source : List Char) (tokens : List Token) (comments : List Span) : Prop where
  nonempty : ∀ t ∈ tokens, t.span.start < t.span.stop
  cuts : ∀ t ∈ tokens, ∃ text, t.span.Cuts source text ∧ t.kind.Fits text
  ordered : tokens.Pairwise fun t u => t.span.Before u.span
  apart : ∀ t ∈ tokens, ∀ k ∈ comments, t.span.Before k ∨ k.Before t.span
  comments_cut : ∀ k ∈ comments, ∃ front text back, source = front ++ (text ++ back) ∧
    k = ⟨width front, width front + width text⟩ ∧ Comment text back
  comments_ordered : comments.Pairwise Span.Before
  outside : ∀ front c back, source = front ++ c :: back →
    (∃ t ∈ tokens, t.span.Holds (width front)) ∨ Text.isBlank c = true ∨
      ∃ k ∈ comments, k.Holds (width front)
  /-- No token starts where a comment does. -/
  uncommented : ∀ t ∈ tokens, ∀ (u : Span) d, u.start = t.span.start → u.Cuts source ['/', d] →
    d ≠ '/' ∧ d ≠ '*'
  /-- No wider text would be the same kind of token, but that a number may have digits in front of it which
  an identifier has taken. -/
  widest : ∀ t ∈ tokens, ∀ u text, u.Cuts source text → t.kind.Fits text →
    u.start ≤ t.span.start → t.span.stop ≤ u.stop →
      u = t.span ∨ (t.kind = .number ∧ ∃ e ∈ tokens, e.kind = .ident ∧ e.span.Holds u.start)

section Comments

variable (s : List Char)

theorem splitLine_cases :
    (∃ body, '\n' ∉ body ∧ (splitLine s).1 = body ++ ['\n']) ∨
      ('\n' ∉ s ∧ splitLine s = (s, [])) := by
  induction s with
  | nil => exact .inr ⟨List.not_mem_nil, rfl⟩
  | cons c rest ih =>
    rw [splitLine]
    by_cases ends : c = '\n'
    · subst ends
      exact .inl ⟨[], List.not_mem_nil, rfl⟩
    · rw [if_neg ends]
      rcases ih with ⟨body, inside, line⟩ | ⟨inside, all⟩
      · refine .inl ⟨c :: body, ?_, ?_⟩
        · simp [Ne.symm ends, inside]
        · dsimp only
          rw [line]
          rfl
      · refine .inr ⟨?_, ?_⟩
        · simp [Ne.symm ends, inside]
        · rw [all]

theorem splitBlock_cases :
    (∃ body, ¬ ['*', '/'] <:+: body ++ ['*'] ∧ (splitBlock s).1 = body ++ ['*', '/']) ∨
      (¬ ['*', '/'] <:+: s ∧ splitBlock s = (s, [])) := by
  fun_induction splitBlock s with
  | case1 rest => exact .inl ⟨[], by decide, rfl⟩
  | case2 c rest other r ih =>
    have inside {t : List Char} (same : t.head? = rest.head?) (more : ¬ ['*', '/'] <:+: t) :
        ¬ ['*', '/'] <:+: c :: t := by
      rw [List.infix_cons_iff]
      rintro (⟨u, whole⟩ | here)
      · obtain ⟨rfl, rfl⟩ := List.cons.inj whole
        obtain ⟨v, rfl⟩ := List.head?_eq_some_iff.mp same.symm
        exact other v rfl rfl
      · exact more here
    rcases ih with ⟨body, first, block⟩ | ⟨never, all⟩
    · have whole := splitBlock_append rest
      rw [block] at whole
      refine .inl ⟨c :: body, inside ?_ first, ?_⟩
      · rw [← whole]
        cases body <;> rfl
      · rw [block]
        rfl
    · refine .inr ⟨inside rfl never, ?_⟩
      dsimp only [r]
      rw [all]
  | case3 => exact .inr ⟨by simp, rfl⟩

end Comments

theorem comment_of_stands {text rest : List Char} (stands : (Piece.comment text).Stands rest) :
    Comment text rest := by
  obtain ⟨c, more, whole, cut⟩ := stands
  cases start c (more ++ rest) with
  | blank blank => simp [firstPiece_blank blank] at cut
  | line slash t next =>
    rw [slash, next, firstPiece_line] at cut
    obtain ⟨same, rfl⟩ := Prod.mk.inj cut
    cases same
    rcases splitLine_cases t with ⟨body, inside, line⟩ | ⟨inside, all⟩
    · rw [line]
      exact .line inside
    · rw [all]
      exact .lastLine inside
  | block slash t next =>
    rw [slash, next, firstPiece_block] at cut
    obtain ⟨same, rfl⟩ := Prod.mk.inj cut
    cases same
    rcases splitBlock_cases t with ⟨body, first, block⟩ | ⟨never, all⟩
    · rw [block]
      exact .block first
    · rw [all]
      exact .lastBlock never
  | word blank word => simp [firstPiece_word blank word] at cut
  | number blank word digit => simp [firstPiece_number blank word digit] at cut
  | mark blank word digit alone => simp [firstPiece_mark blank word digit alone] at cut

theorem Comment.getLast? {text rest : List Char} {d : Char} (comment : Comment text (d :: rest)) :
    text.getLast? = some '\n' ∨ text.getLast? = some '/' := by
  cases comment with
  | line inside =>
    left
    rw [← List.cons_append, ← List.cons_append, List.getLast?_concat]
  | @block body rest first =>
    right
    rw [show '/' :: '*' :: (body ++ ['*', '/']) = ('/' :: '*' :: (body ++ ['*'])) ++ ['/'] by simp,
      List.getLast?_concat]

section Characters

variable {c : Char}

def numberRanges : List (Nat × Nat) :=
  [(0x2E, 0x2E), (0x30, 0x39), (0x41, 0x5A), (0x5F, 0x5F), (0x61, 0x7A)] ++
    (Text.alphabeticRanges ++ Text.numericRanges)

theorem inRanges_iff {ranges : List (Nat × Nat)} :
    Text.inRanges ranges c = true ↔ ∃ r ∈ ranges, r.1 ≤ c.toNat ∧ c.toNat ≤ r.2 := by
  simp [Text.inRanges]

theorem toNat_of_isAlpha (letter : c.isAlpha = true) :
    (0x41 ≤ c.toNat ∧ c.toNat ≤ 0x5A) ∨ (0x61 ≤ c.toNat ∧ c.toNat ≤ 0x7A) := by
  have either : (c.isUpper || c.isLower) = true := letter
  rcases Bool.or_eq_true _ _ ▸ either with upper | lower
  · have bounds : c.val ≥ 'A'.val ∧ c.val ≤ 'Z'.val := of_decide_eq_true upper
    exact .inl ⟨UInt32.le_iff_toNat_le.mp bounds.1, UInt32.le_iff_toNat_le.mp bounds.2⟩
  · have both : (decide (c.val ≥ 'a'.val) && decide (c.val ≤ 'z'.val)) = true := lower
    have bounds : c.val ≥ 'a'.val ∧ c.val ≤ 'z'.val := by simpa using both
    exact .inr ⟨UInt32.le_iff_toNat_le.mp bounds.1, UInt32.le_iff_toNat_le.mp bounds.2⟩

theorem inRanges_of_isNumberPart (part : isNumberPart c = true) :
    Text.inRanges numberRanges c = true := by
  have ascii (low high : Nat) (mem : (low, high) ∈ numberRanges.take 5)
      (bounds : low ≤ c.toNat ∧ c.toNat ≤ high) : Text.inRanges numberRanges c = true :=
    inRanges_iff.mpr ⟨_, List.mem_of_mem_take mem, bounds⟩
  have above {ranges : List (Nat × Nat)} (here : Text.inRanges ranges c = true)
      (within : ∀ r ∈ ranges, r ∈ numberRanges) : Text.inRanges numberRanges c = true := by
    obtain ⟨r, mem, bounds⟩ := inRanges_iff.mp here
    exact inRanges_iff.mpr ⟨r, within r mem, bounds⟩
  simp only [isNumberPart, isWordPart, Text.isAlphanumeric, Text.isAlphabetic, Text.isNumeric,
    Bool.or_eq_true, Bool.and_eq_true, decide_eq_true_eq] at part
  rcases part with (((letter | ⟨_, letter⟩) | (digit | ⟨_, digit⟩)) | rfl) | rfl
  · rcases toNat_of_isAlpha letter with upper | lower
    · exact ascii 0x41 0x5A (by decide) upper
    · exact ascii 0x61 0x7A (by decide) lower
  · exact above letter fun r mem => by simp [numberRanges, mem]
  · exact ascii 0x30 0x39 (by decide) (Char.isDigit_iff_toNat.mp digit)
  · exact above digit fun r mem => by simp [numberRanges, mem]
  · exact ascii 0x5F 0x5F (by decide) (by decide)
  · exact ascii 0x2E 0x2E (by decide) (by decide)

theorem isBlank_of_isNumberPart (part : isNumberPart c = true) : Text.isBlank c = false := by
  have disjoint : ∀ r ∈ Text.blankRanges, ∀ s ∈ numberRanges, r.2 < s.1 ∨ s.2 < r.1 := by
    decide +kernel
  obtain ⟨s, in_, lower, upper⟩ := inRanges_iff.mp (inRanges_of_isNumberPart part)
  rw [Bool.eq_false_iff]
  intro blank
  obtain ⟨r, mem, first, last⟩ := inRanges_iff.mp blank
  have between := disjoint r mem s in_
  omega

theorem isWordPart_of_isWordStart (starts : isWordStart c = true) : isWordPart c = true := by
  simp only [isWordStart, isWordPart, Text.isAlphanumeric, Bool.or_eq_true] at starts ⊢
  rcases starts with letter | line
  · exact .inl (.inl letter)
  · exact .inr line

theorem isNumberPart_of_isWordPart (part : isWordPart c = true) : isNumberPart c = true := by
  rw [isNumberPart, part]
  rfl

theorem isNumberPart_of_isDigit (digit : c.isDigit = true) : isNumberPart c = true := by
  simp [isNumberPart, isWordPart, Text.isAlphanumeric, Text.isNumeric, digit]

theorem isWordStart_of_isDigit (digit : c.isDigit = true) : isWordStart c = false := by
  have upper : c.toNat ≤ 0x39 := (Char.isDigit_iff_toNat.mp digit).2
  rw [Bool.eq_false_iff]
  intro word
  simp only [isWordStart, Text.isAlphabetic, Bool.or_eq_true, Bool.and_eq_true,
    decide_eq_true_eq] at word
  rcases word with (letter | ⟨above, _⟩) | rfl
  · have letters := toNat_of_isAlpha letter
    omega
  · omega
  · exact absurd upper (by decide)

end Characters

namespace TokenKind

variable {kind : TokenKind} {c : Char}

theorem Opens.kind_eq (opens : kind.Opens c) :
    kind = if isWordStart c = true then .ident else if c.isDigit = true then .number else .punct c := by
  cases kind with
  | ident =>
    have word : isWordStart c = true := opens
    rw [if_pos word]
  | number =>
    have digit : c.isDigit = true := opens
    rw [if_neg (Bool.eq_false_iff.mp (isWordStart_of_isDigit digit)), if_pos digit]
  | punct d =>
    obtain ⟨rfl, _, word, digit⟩ := opens
    rw [if_neg (Bool.eq_false_iff.mp word), if_neg (Bool.eq_false_iff.mp digit)]

theorem Opens.not_blank (opens : kind.Opens c) : Text.isBlank c = false := by
  cases kind with
  | ident =>
    exact isBlank_of_isNumberPart (isNumberPart_of_isWordPart (isWordPart_of_isWordStart opens))
  | number => exact isBlank_of_isNumberPart (isNumberPart_of_isDigit opens)
  | punct _ => exact opens.2.1

theorem Opens.isNumberPart {d : Char} (opens : kind.Opens c) (more : kind.Carries d) :
    Glsl.isNumberPart c = true := by
  cases kind with
  | ident => exact isNumberPart_of_isWordPart (isWordPart_of_isWordStart opens)
  | number => exact isNumberPart_of_isDigit opens
  | punct _ => cases more

theorem Carries.isNumberPart (carries : kind.Carries c) : Glsl.isNumberPart c = true := by
  cases kind with
  | ident => exact isNumberPart_of_isWordPart carries
  | number => exact carries
  | punct _ => cases carries

theorem Opens.slash (opens : kind.Opens '/') : kind = .punct '/' := by
  rw [opens.kind_eq, if_neg (by decide), if_neg (by decide)]

end TokenKind

namespace Piece.Stands

variable {p : Piece} {kind : TokenKind}

theorem fits {rest : List Char} (stands : p.Stands rest) (token : p.kind? = some kind) :
    kind.Fits p.text := by
  obtain ⟨c, more, text, cut⟩ := stands
  cases start c (more ++ rest) with
  | blank blank =>
    rw [firstPiece_blank blank] at cut
    obtain ⟨rfl, _⟩ := Prod.mk.inj cut
    cases token
  | line slash t next =>
    rw [slash, next, firstPiece_line] at cut
    obtain ⟨rfl, _⟩ := Prod.mk.inj cut
    cases token
  | block slash t next =>
    rw [slash, next, firstPiece_block] at cut
    obtain ⟨rfl, _⟩ := Prod.mk.inj cut
    cases token
  | word blank word =>
    rw [firstPiece_word blank word] at cut
    obtain ⟨rfl, _⟩ := Prod.mk.inj cut
    cases token
    exact ⟨c, _, rfl, word, fun d mem => List.mem_takeWhile_imp mem⟩
  | number blank word digit =>
    rw [firstPiece_number blank word digit] at cut
    obtain ⟨rfl, _⟩ := Prod.mk.inj cut
    cases token
    exact ⟨c, _, rfl, digit, fun d mem => List.mem_takeWhile_imp mem⟩
  | mark blank word digit alone =>
    rw [firstPiece_mark blank word digit alone] at cut
    obtain ⟨rfl, _⟩ := Prod.mk.inj cut
    cases token
    exact ⟨c, [], rfl, ⟨rfl, blank, word, digit⟩, List.forall_mem_nil _⟩

theorem uncommented {back rest : List Char} {d : Char} (stands : p.Stands back)
    (token : p.kind? = some kind) (slash : p.text ++ back = '/' :: d :: rest) : d ≠ '/' ∧ d ≠ '*' := by
  obtain ⟨c, more, text, opens, _⟩ := stands.fits token
  rw [text, List.cons_append] at slash
  obtain ⟨rfl, behind⟩ := List.cons.inj slash
  rw [opens.slash] at token
  cases p with
  | mark m =>
    cases token
    obtain ⟨_, rfl⟩ := List.cons.inj text
    obtain rfl : back = d :: rest := behind
    have free := stands.not_takes
    exact ⟨fun line => free ⟨rfl, .inl line⟩, fun block => free ⟨rfl, .inr block⟩⟩
  | _ => cases token

/-- Text that would be a token and goes on behind a piece that holds its first character would be a number,
and the piece is an identifier. -/
theorem goes_on {front back rest : List Char} {c d : Char} (stands : p.Stands (d :: rest))
    (text : p.text = front ++ c :: back) (opens : kind.Opens c)
    (carries : ∀ e ∈ back ++ [d], kind.Carries e) : kind = .number ∧ p.kind? = some .ident := by
  have next : kind.Carries d := carries d (by simp)
  have part : ∀ e ∈ c :: back, isNumberPart e = true := by
    intro e mem
    rcases List.mem_cons.mp mem with rfl | mem
    · exact opens.isNumberPart next
    · exact (carries e (List.mem_append_left _ mem)).isNumberPart
  have stops := stands.not_takes
  cases p with
  | blank run =>
    have mem : c ∈ run := by
      rw [show run = _ from text]
      simp
    have blank := isBlank_of_stands stands c mem
    rw [isBlank_of_isNumberPart (part c List.mem_cons_self)] at blank
    cases blank
  | comment s =>
    exfalso
    have last {e : Char} (ends : s.getLast? = some e) : isNumberPart e = true := by
      rw [show s = _ from text, List.getLast?_append_cons] at ends
      exact part e (List.mem_of_getLast? ends)
    rcases (comment_of_stands stands).getLast? with line | slash
    · exact absurd (last line) (by decide)
    · exact absurd (last slash) (by decide)
  | word w =>
    cases kind with
    | ident => exact absurd next stops
    | number => exact ⟨rfl, rfl⟩
    | punct _ => cases next
  | number n => exact absurd next.isNumberPart stops
  | mark m =>
    exfalso
    have mem : c ∈ [m] := by
      rw [show [m] = _ from text]
      simp
    have fits : (TokenKind.punct m).Fits [m] := stands.fits rfl
    obtain ⟨_, _, whole, mark, _⟩ := fits
    obtain ⟨rfl, _⟩ := List.cons.inj whole
    obtain rfl := List.mem_singleton.mp mem
    rw [opens.kind_eq.trans mark.kind_eq.symm] at next
    cases next

end Piece.Stands

section Placed

variable {place : Nat} {ps : List Piece}

theorem mem_placedFrom {e : Span × Piece} : e ∈ placedFrom place ps ↔
    ∃ front back, ps = front ++ e.2 :: back ∧ e.1.start = place + width (textOf front) ∧
      e.1.stop = place + width (textOf front) + width e.2.text := by
  constructor
  · intro mem
    induction ps generalizing place with
    | nil => cases mem
    | cons p rest ih =>
      rcases List.mem_cons.mp mem with rfl | mem
      · exact ⟨[], rest, rfl, rfl, rfl⟩
      · obtain ⟨front, back, whole, start, stop⟩ := ih mem
        refine ⟨p :: front, back, by rw [whole]; rfl, ?_, ?_⟩
        · rw [start, textOf_cons, width_append, Nat.add_assoc]
        · rw [stop, textOf_cons, width_append, Nat.add_assoc place]
  · obtain ⟨⟨_, _⟩, p⟩ := e
    rintro ⟨front, back, rfl, start, stop⟩
    dsimp only at start stop
    subst start stop
    rw [placedFrom_append]
    exact List.mem_append_right _ List.mem_cons_self

theorem placedFrom_ordered (place : Nat) (ps : List Piece) :
    (placedFrom place ps).Pairwise fun d e => d.1.Before e.1 := by
  induction ps generalizing place with
  | nil => exact .nil
  | cons p rest ih =>
    refine .cons ?_ (ih _)
    intro e mem
    obtain ⟨front, _, _, start, _⟩ := mem_placedFrom.mp mem
    change place + width p.text ≤ e.1.start
    omega

theorem apart_of_placedFrom {d e : Span × Piece} (first : d ∈ placedFrom place ps)
    (second : e ∈ placedFrom place ps) : d = e ∨ d.1.Before e.1 ∨ e.1.Before d.1 :=
  eq_or_related (placedFrom_ordered place ps) first second

theorem exists_piece {front back : List Char} {c : Char} (whole : textOf ps = front ++ c :: back) :
    ∃ qs p rs before behind, ps = qs ++ p :: rs ∧ p.text = before ++ c :: behind ∧
      front = textOf qs ++ before ∧ back = behind ++ textOf rs := by
  induction ps generalizing front with
  | nil =>
    cases front <;> cases whole
  | cons p rest ih =>
    rw [textOf_cons] at whole
    have later (more : List Char) (ahead : front = p.text ++ more)
        (whole : textOf rest = more ++ c :: back) : ∃ qs q rs before behind,
          p :: rest = qs ++ q :: rs ∧ q.text = before ++ c :: behind ∧
            front = textOf qs ++ before ∧ back = behind ++ textOf rs := by
      obtain ⟨qs, q, rs, before, behind, rfl, text, rfl, rfl⟩ := ih whole
      exact ⟨p :: qs, q, rs, before, behind, rfl, text,
        by rw [ahead, textOf_cons, List.append_assoc], rfl⟩
    rcases List.append_eq_append_iff.mp whole with ⟨more, ahead, whole⟩ | ⟨text, here, whole⟩
    · exact later more ahead whole
    · cases text with
      | nil => exact later [] (by rw [here, List.append_nil, List.append_nil]) whole.symm
      | cons d behind =>
        obtain ⟨rfl, rfl⟩ := List.cons.inj whole
        exact ⟨[], p, rest, front, behind, rfl, here, rfl, rfl⟩

end Placed

section Scan

variable {source : List Char}

def placed (source : List Char) : List (Span × Piece) := placedFrom 0 (pieces source)

def commentAt? : Span × Piece → Option Span
  | (k, .comment _) => some k
  | _ => none

def commentSpans (source : List Char) : List Span := (placed source).filterMap commentAt?

theorem mem_tokenize {t : Token} :
    t ∈ tokenize source ↔ ∃ p, (t.span, p) ∈ placed source ∧ p.kind? = some t.kind := by
  rw [tokenize_eq, spansFrom, List.mem_filterMap]
  constructor
  · rintro ⟨⟨k, p⟩, mem, token⟩
    obtain ⟨kind, here, rfl⟩ := Option.map_eq_some_iff.mp token
    exact ⟨p, mem, here⟩
  · rintro ⟨p, mem, here⟩
    exact ⟨_, mem, Option.map_eq_some_iff.mpr ⟨_, here, rfl⟩⟩

theorem mem_commentSpans {k : Span} :
    k ∈ commentSpans source ↔ ∃ text, (k, .comment text) ∈ placed source := by
  unfold commentSpans
  rw [List.mem_filterMap]
  constructor
  · rintro ⟨⟨l, p⟩, mem, comment⟩
    cases p with
    | comment text =>
      cases comment
      exact ⟨text, mem⟩
    | _ => cases comment
  · rintro ⟨text, mem⟩
    exact ⟨_, mem, rfl⟩

theorem stands_of_placed {e : Span × Piece} (mem : e ∈ placed source) :
    ∃ front back, source = front ++ (e.2.text ++ back) ∧
      e.1 = ⟨width front, width front + width e.2.text⟩ ∧ e.2.Stands back := by
  obtain ⟨front, back, whole, start, stop⟩ := mem_placedFrom.mp mem
  have well := wellCut_pieces source
  have text := textOf_pieces source
  rw [whole, textOf_append, textOf_cons] at text
  rw [whole] at well
  rw [Nat.zero_add] at start stop
  have span : e.1 = ⟨width (textOf front), width (textOf front) + width e.2.text⟩ := by
    rw [← stop, ← start]
  exact ⟨textOf front, textOf back, text.symm, span, (wellCut_of_append well).1⟩

theorem start_lt_stop {e : Span × Piece} (mem : e ∈ placed source) :
    e.1.start < e.1.stop := by
  obtain ⟨front, back, _, span, c, more, text, _⟩ := stands_of_placed mem
  have long : 0 < width e.2.text := width_pos (by rw [text]; exact List.cons_ne_nil c more)
  rw [span]
  exact Nat.lt_add_of_pos_right long

theorem exists_placed {front back : List Char} {c : Char} (whole : source = front ++ c :: back) :
    ∃ e ∈ placed source, ∃ before behind rest, e.2.text = before ++ c :: behind ∧
      back = behind ++ rest ∧ e.1.start + width before = width front ∧
      e.1.stop = width front + width (c :: behind) ∧ e.2.Stands rest := by
  rw [← textOf_pieces source] at whole
  obtain ⟨qs, p, rs, before, behind, cut, text, rfl, rfl⟩ := exists_piece whole
  have mem : (⟨width (textOf qs), width (textOf qs) + width p.text⟩, p) ∈ placed source :=
    mem_placedFrom.mpr ⟨qs, rs, cut, (Nat.zero_add _).symm, by rw [Nat.zero_add]⟩
  have well := wellCut_pieces source
  rw [cut] at well
  refine ⟨_, mem, before, behind, textOf rs, text, rfl, ?_, ?_, (wellCut_of_append well).1⟩
  · rw [width_append]
  · rw [text, width_append, width_append, Nat.add_assoc]

theorem widest_tokenize {t : Token} {u : Span} {text : List Char} (mem : t ∈ tokenize source)
    (cuts : u.Cuts source text) (fits : t.kind.Fits text) (left : u.start ≤ t.span.start)
    (right : t.span.stop ≤ u.stop) :
    u = t.span ∨ (t.kind = .number ∧
      ∃ e ∈ tokenize source, e.kind = .ident ∧ e.span.Holds u.start) := by
  obtain ⟨front, back, whole, start, stop⟩ := cuts
  obtain ⟨c, more, rfl, opens, carries⟩ := fits
  obtain ⟨p, token, _⟩ := mem_tokenize.mp mem
  -- the piece that holds the first character of the wider text
  obtain ⟨⟨k, q⟩, here, before, behind, rest, within, split, first, last, stands⟩ :=
    exists_placed whole
  dsimp only at within first last stands
  have wide : t.span.start < t.span.stop := start_lt_stop token
  have contained (inside : u.stop ≤ k.stop) : u = t.span := by
    rcases apart_of_placedFrom token here with same | earlier | later
    · obtain ⟨rfl, _⟩ := Prod.mk.inj same
      exact Span.ext (by omega) (by omega)
    · change t.span.stop ≤ k.start at earlier
      omega
    · change k.stop ≤ t.span.start at later
      omega
  rcases List.append_eq_append_iff.mp split with ⟨z, rfl, _⟩ | ⟨z, rfl, rfl⟩
  · refine .inl (contained ?_)
    rw [stop, last, width_cons, width_cons, width_append]
    omega
  · cases z with
    | nil =>
      refine .inl (contained ?_)
      rw [stop, last, List.append_nil]
    | cons d z =>
      have carried : ∀ e ∈ behind ++ [d], t.kind.Carries e := by
        intro e mem
        refine carries e ?_
        rw [← List.singleton_append, ← List.append_assoc]
        exact List.mem_append_left z mem
      obtain ⟨number, ident⟩ := stands.goes_on within opens carried
      refine .inr ⟨number, ⟨.ident, k⟩, mem_tokenize.mpr ⟨q, here, ident⟩, rfl, ?_, ?_⟩
      · change k.start ≤ u.start
        omega
      · have long := width_pos (List.cons_ne_nil c behind)
        change u.start < k.stop
        omega

theorem scanned_tokenize (source : List Char) :
    Scanned source (tokenize source) (commentSpans source) where
  nonempty t mem := by
    obtain ⟨p, here, _⟩ := mem_tokenize.mp mem
    exact start_lt_stop here
  cuts t mem := by
    obtain ⟨p, here, token⟩ := mem_tokenize.mp mem
    obtain ⟨front, back, whole, span, stands⟩ := stands_of_placed here
    dsimp only at whole span stands
    refine ⟨p.text, ⟨front, back, whole, ?_, ?_⟩, stands.fits token⟩
    · rw [span]
    · rw [span]
  ordered := by
    rw [tokenize_eq, spansFrom, List.pairwise_filterMap]
    refine (placedFrom_ordered 0 _).imp ?_
    rintro d e before t first u second
    obtain ⟨_, _, rfl⟩ := Option.map_eq_some_iff.mp first
    obtain ⟨_, _, rfl⟩ := Option.map_eq_some_iff.mp second
    exact before
  apart t mem k comment := by
    obtain ⟨p, here, token⟩ := mem_tokenize.mp mem
    obtain ⟨text, there⟩ := mem_commentSpans.mp comment
    rcases apart_of_placedFrom here there with same | apart
    · obtain ⟨_, rfl⟩ := Prod.mk.inj same
      cases token
    · exact apart
  comments_cut k mem := by
    obtain ⟨text, here⟩ := mem_commentSpans.mp mem
    obtain ⟨front, back, whole, span, stands⟩ := stands_of_placed here
    exact ⟨front, text, back, whole, span, comment_of_stands stands⟩
  comments_ordered := by
    rw [commentSpans, List.pairwise_filterMap]
    refine (placedFrom_ordered 0 _).imp ?_
    rintro ⟨k, p⟩ ⟨l, q⟩ before a first b second
    cases p <;> cases first
    cases q <;> cases second
    exact before
  outside front c back whole := by
    obtain ⟨⟨k, q⟩, here, before, behind, rest, within, _, first, last, stands⟩ :=
      exists_placed whole
    dsimp only at within first last stands
    have long := width_pos (List.cons_ne_nil c behind)
    have holds : k.Holds (width front) := ⟨by omega, by omega⟩
    cases q with
    | blank run =>
      have mem : c ∈ run := by
        rw [show run = _ from within]
        simp
      exact .inr (.inl (isBlank_of_stands stands c mem))
    | comment text => exact .inr (.inr ⟨k, mem_commentSpans.mpr ⟨text, here⟩, holds⟩)
    | word w => exact .inl ⟨⟨.ident, k⟩, mem_tokenize.mpr ⟨_, here, rfl⟩, holds⟩
    | number n => exact .inl ⟨⟨.number, k⟩, mem_tokenize.mpr ⟨_, here, rfl⟩, holds⟩
    | mark m => exact .inl ⟨⟨.punct m, k⟩, mem_tokenize.mpr ⟨_, here, rfl⟩, holds⟩
  uncommented t mem u d same cuts := by
    obtain ⟨p, here, token⟩ := mem_tokenize.mp mem
    obtain ⟨front, back, whole, span, stands⟩ := stands_of_placed here
    obtain ⟨ahead, rest, slash, start, _⟩ := cuts
    dsimp only at whole span stands
    have place : width front = width ahead := by
      rw [← start, same, span]
    obtain ⟨_, behind⟩ := append_inj_of_width place (whole.symm.trans slash)
    exact stands.uncommented token behind
  widest t mem u text cuts fits left right := widest_tokenize mem cuts fits left right

end Scan

end SceneGpu.Glsl
