import SceneGpu.Proofs.Glsl.Partition
/-!
Adjusting a text by places and slices: a loop over the tokens, with the place in the source up to which the
result is written. There is no result where a slice is out of range or splits a character, where the result is
written beyond the start of a clause, or where a parenthesis closes that is not open. This never happens, and
the result is the one of the edits.
-/
namespace SceneGpu.Glsl

def tokensBetween? (ts : List Token) (first last : Nat) : Option (List Token) :=
  if first ≤ last ∧ last ≤ ts.length then some ((ts.take last).drop first) else none

/-- The place of the parenthesis after which none is open, if there is one. Nothing is returned if one
closes where none is open. -/
def closingFrom? : Nat → Nat → List Token → Option (Option Nat)
  | _, _, [] => some none
  | depth, place, t :: rest =>
    if t.kind = .punct '(' then closingFrom? (depth + 1) (place + 1) rest
    else if t.kind = .punct ')' then
      if depth = 0 then none
      else if depth - 1 = 0 then some (some place)
      else closingFrom? (depth - 1) (place + 1) rest
    else closingFrom? depth (place + 1) rest

def matchingParen? (ts : List Token) (first : Nat) : Option (Option Nat) :=
  closingFrom? 0 first (ts.drop first)

structure Written where
  cursor : Nat
  out : List Char
deriving DecidableEq, Repr

section Loop

variable (source : List Char)

def keysAt? : Bool → List Token → Option (List (List Char))
  | _, [] => some []
  | expected, t :: rest =>
    if t.kind = .punct ',' then keysAt? true rest
    else if t.kind = .ident ∧ expected then do
      let key ← t.span.text? source
      return key :: (← keysAt? false rest)
    else keysAt? false rest

def headAt? (ts : List Token) : Option (List (List Char)) :=
  ((ts.takeWhile fun t => t.kind ≠ .punct ';' ∧ t.kind ≠ .punct '\x7b').filter
    fun t => t.kind = .ident).mapM fun t => t.span.text? source

def startsClause? (t : Token) (next : Option Token) : Option Bool :=
  if t.kind = .ident then do
    let text ← t.span.text? source
    return text = layoutWord ∧ next.map Token.kind = some (.punct '(')
  else some false

def edit? (clause : Span) (w : Written) : Fate → Option Written
  | .keep => some w
  | .remove => do
    let before ← (Span.mk w.cursor clause.start).text? source
    let behind ← (Span.mk clause.stop (width source)).text? source
    let trailing := width behind - width (behind.dropWhile Text.isBlank)
    return ⟨clause.stop + trailing, w.out ++ before⟩
  | .replace => do
    let before ← (Span.mk w.cursor clause.start).text? source
    return ⟨clause.stop, w.out ++ before ++ sharedLayout.toList⟩

/-- Edits the clause between two tokens. Its own text is read, too, for the log. -/
def editAt? (ts : List Token) (w : Written) (first close : Nat) : Option Written := do
  let keys ← keysAt? source true (← tokensBetween? ts (first + 2) close)
  let head ← headAt? source (← tokensBetween? ts (close + 1) ts.length)
  let clause : Span := ⟨(← ts[first]?).span.start, (← ts[close]?).span.stop⟩
  let _ ← clause.text? source
  if clause.start < w.cursor then none else edit? source clause w (classify head keys)

/-- One turn of the loop, from the token at a place. It ends the loop behind the last token or at a clause
that is never closed. -/
def turn? (ts : List Token) (place : Nat) (w : Written) : Option (Option (Nat × Written)) :=
  match ts[place]? with
  | none => some none
  | some t => do
    if ← startsClause? source t ts[place + 1]? then
      match ← matchingParen? ts (place + 1) with
      | none => return none
      | some close => return some (close + 1, ← editAt? source ts w place close)
    else return some (place + 1, w)

end Loop

theorem le_of_closingFrom? {ts : List Token} {depth place close : Nat}
    (found : closingFrom? depth place ts = some (some close)) : place ≤ close := by
  fun_induction closingFrom? depth place ts with
  | case1 => cases found
  | case3 => cases found
  | case4 =>
    cases found
    exact Nat.le_refl _
  | _ =>
    rename_i ih
    exact Nat.le_of_succ_le (ih found)

theorem lt_of_turn? {source : List Char} {ts : List Token} {place : Nat} {w : Written}
    {next : Nat × Written} (turn : turn? source ts place w = some (some next)) :
    place < ts.length ∧ place < next.1 := by
  unfold turn? at turn
  split at turn
  · cases turn
  · rename_i t here
    refine ⟨(List.getElem?_eq_some_iff.mp here).1, ?_⟩
    obtain ⟨starts, _, turn⟩ := Option.bind_eq_some_iff.mp turn
    cases starts with
    | true =>
      obtain ⟨paren, found, turn⟩ := Option.bind_eq_some_iff.mp turn
      cases paren with
      | none => cases turn
      | some close =>
        obtain ⟨v, _, same⟩ := Option.bind_eq_some_iff.mp turn
        cases same
        exact Nat.lt_succ_of_lt (le_of_closingFrom? found)
    | false =>
      cases turn
      exact Nat.lt_succ_self place

def loop? (source : List Char) (ts : List Token) (place : Nat) (w : Written) : Option Written :=
  match _turn : turn? source ts place w with
  | none => none
  | some none => some w
  | some (some next) => loop? source ts next.1 next.2
termination_by ts.length - place
decreasing_by
  have later := lt_of_turn? _turn
  omega

def finish? (source : List Char) (w : Written) : Option (List Char) :=
  ((Span.mk w.cursor (width source)).text? source).map (w.out ++ ·)

def strip? (source : List Char) : Option (List Char) :=
  (loop? source (tokenize source) 0 ⟨0, []⟩).bind (finish? source)

section Tokens

variable {p : Piece} {kind : TokenKind}

theorem Piece.kind?_eq_punct_iff {c : Char} : p.kind? = some (.punct c) ↔ p = .mark c := by
  cases p <;> simp [Piece.kind?]

theorem tokens_token (token : p.kind? = some kind) (rest : List Piece) :
    tokens (p :: rest) = p :: tokens rest := by
  cases p <;> first | rfl | cases token

theorem tokens_other (other : p.kind? = none) (rest : List Piece) : tokens (p :: rest) = tokens rest := by
  cases p <;> first | rfl | cases other

theorem length_spansFrom (place : Nat) (ps : List Piece) :
    (spansFrom place ps).length = (tokens ps).length := by
  induction ps generalizing place with
  | nil => rfl
  | cons p rest ih =>
    cases token : p.kind? with
    | none => rw [spansFrom_other place token, ih, tokens_other token]
    | some kind =>
      rw [spansFrom_token place token, List.length_cons, ih, tokens_token token, List.length_cons]

theorem spansFrom_silent (place : Nat) {gap : List Piece} (silent : Silent gap) :
    spansFrom place gap = [] := by
  rw [← List.length_eq_zero_iff, length_spansFrom, tokens_silent silent]
  rfl

theorem head?_spansFrom (place : Nat) (ps : List Piece) (c : Char) :
    (spansFrom place ps).head?.map Token.kind = some (.punct c) ↔
      (tokens ps).head? = some (.mark c) := by
  induction ps generalizing place with
  | nil => simp [spansFrom_nil, tokens]
  | cons p rest ih =>
    cases token : p.kind? with
    | none => rw [spansFrom_other place token, ih, tokens_other token]
    | some kind =>
      rw [spansFrom_token place token, tokens_token token, List.head?_cons, List.head?_cons,
        Option.map_some, Option.some.injEq p, ← Piece.kind?_eq_punct_iff, token]

theorem map_split (token : p.kind? = some kind) (i : Nat) (split : Option (List Piece × List Piece)) :
    (split.map fun r => (p :: r.1, r.2)).map (fun r => i + (tokens r.1).length - 1) =
      split.map fun r => i + 1 + (tokens r.1).length - 1 := by
  rw [Option.map_map]
  congr 1
  funext r
  change i + (tokens (p :: r.1)).length - 1 = _
  rw [tokens_token token, List.length_cons]
  omega

theorem closingFrom?_spansFrom (place depth i : Nat) (ps : List Piece) :
    closingFrom? (depth + 1) i (spansFrom place ps) =
      some ((splitClosing depth ps).map fun r => i + (tokens r.1).length - 1) := by
  fun_induction splitClosing depth ps generalizing place i with
  | case1 => rfl
  | case2 depth rest ih => rw [spansFrom_token place rfl, closingFrom?, if_pos rfl, ih, map_split rfl]
  | case3 rest =>
    rw [spansFrom_token place rfl, closingFrom?, if_neg (by simp), if_pos rfl]
    rfl
  | case4 depth rest ih =>
    have deeper : ¬ depth + 1 + 1 = 0 ∧ ¬ depth + 1 + 1 - 1 = 0 := by omega
    rw [spansFrom_token place rfl, closingFrom?, if_neg (by simp), if_pos rfl, if_neg deeper.1,
      if_neg deeper.2, Nat.add_sub_cancel, ih, map_split rfl]
  | case5 depth p rest notOpen atEnd inside ih =>
    cases token : p.kind? with
    | none =>
      rw [spansFrom_other place token, ih, Option.map_map]
      simp only [Function.comp_def, tokens_other token]
    | some kind =>
      have opens : ¬ kind = .punct '(' := by
        rintro rfl
        exact notOpen (Piece.kind?_eq_punct_iff.mp token)
      have closes : ¬ kind = .punct ')' := by
        rintro rfl
        have mark := Piece.kind?_eq_punct_iff.mp token
        cases depth with
        | zero => exact atEnd rfl mark
        | succ depth => exact inside depth rfl mark
      rw [spansFrom_token place token, closingFrom?, if_neg opens, if_neg closes, ih, map_split token]

end Tokens

theorem text?_append (front text back : List Char) :
    (Span.mk (width front) (width front + width text)).text? (front ++ (text ++ back)) = some text :=
  Span.text?_eq_some_iff.mpr ⟨front, back, rfl, rfl, rfl⟩

theorem text?_behind {source : List Char} {front back : List Piece}
    (whole : pieces source = front ++ back) :
    (Span.mk (width (textOf front)) (width source)).text? source = some (textOf back) := by
  have text : textOf front ++ (textOf back ++ []) = source := by
    rw [List.append_nil, ← textOf_append, ← whole, textOf_pieces]
  rw [← text, width_append, List.append_nil]
  have here := text?_append (textOf front) (textOf back) []
  rwa [List.append_nil] at here

theorem text?_between {source : List Char} {front middle back : List Piece}
    (whole : pieces source = (front ++ middle) ++ back) :
    (Span.mk (width (textOf front)) (width (textOf (front ++ middle)))).text? source =
      some (textOf middle) := by
  have text : textOf front ++ (textOf middle ++ textOf back) = source := by
    rw [← textOf_append, ← textOf_append, ← List.append_assoc, ← whole, textOf_pieces]
  rw [← text, textOf_append, width_append]
  exact text?_append (textOf front) (textOf middle) (textOf back)

def StandAt (source : List Char) (place : Nat) (ps : List Piece) : Prop :=
  ∃ front back, source = front ++ (textOf ps ++ back) ∧ place = width front

theorem headAt?_cons {source : List Char} {t : Token} (ts : List Token)
    (more : t.kind ≠ .punct ';' ∧ t.kind ≠ .punct '\x7b') :
    headAt? source (t :: ts) =
      if t.kind = .ident then
        (t.span.text? source).bind fun w => (headAt? source ts).bind fun ws => some (w :: ws)
      else headAt? source ts := by
  unfold headAt?
  rw [List.takeWhile_cons_of_pos (by simpa using more)]
  split
  · rename_i ident
    rw [List.filter_cons_of_pos (by simp [ident]), List.mapM_cons]
    rfl
  · rename_i other
    rw [List.filter_cons_of_neg (by simp [other])]

namespace StandAt

variable {source : List Char} {place : Nat} {p : Piece} {ps : List Piece}

theorem drop {qs : List Piece} (here : StandAt source place (qs ++ ps)) :
    StandAt source (place + width (textOf qs)) ps := by
  obtain ⟨front, back, whole, rfl⟩ := here
  refine ⟨front ++ textOf qs, back, ?_, (width_append _ _).symm⟩
  rw [whole, textOf_append, List.append_assoc, List.append_assoc]

theorem take {qs : List Piece} (here : StandAt source place (qs ++ ps)) : StandAt source place qs := by
  obtain ⟨front, back, whole, rfl⟩ := here
  refine ⟨front, textOf ps ++ back, ?_, rfl⟩
  rw [whole, textOf_append, List.append_assoc]

theorem tail (here : StandAt source place (p :: ps)) :
    StandAt source (place + width p.text) ps := by
  have behind : StandAt source (place + width (textOf [p])) ps := drop here
  rwa [textOf_cons, show textOf [] = [] from rfl, List.append_nil] at behind

theorem text_eq (here : StandAt source place ps) :
    (Span.mk place (place + width (textOf ps))).text? source = some (textOf ps) := by
  obtain ⟨front, back, whole, rfl⟩ := here
  rw [whole]
  exact text?_append front (textOf ps) back

theorem text? (here : StandAt source place (p :: ps)) :
    (Span.mk place (place + width p.text)).text? source = some p.text := by
  have first : StandAt source place [p] := take (show StandAt source place ([p] ++ ps) from here)
  have text := first.text_eq
  rwa [textOf_cons, show textOf [] = [] from rfl, List.append_nil] at text

theorem keysAt? (here : StandAt source place ps) (expected : Bool) :
    Glsl.keysAt? source expected (spansFrom place ps) = some (keysOf expected ps) := by
  fun_induction keysOf expected ps generalizing place with
  | case1 => rfl
  | case2 expected rest ih =>
    rw [spansFrom_token place rfl, Glsl.keysAt?, if_pos rfl]
    exact ih here.tail
  | case3 w rest ih =>
    rw [spansFrom_token place rfl, Glsl.keysAt?, if_neg (by simp), if_pos ⟨rfl, rfl⟩, here.text?,
      ih here.tail]
    rfl
  | case4 expected run rest ih =>
    rw [spansFrom_other place rfl]
    exact ih here.tail
  | case5 expected text rest ih =>
    rw [spansFrom_other place rfl]
    exact ih here.tail
  | case6 expected p rest comma word blank comment ih =>
    have behind := ih here.tail
    cases p with
    | blank run => exact absurd rfl (blank run)
    | comment text => exact absurd rfl (comment text)
    | word w =>
      have expected_ : ¬ expected = true := fun expected => word w expected rfl
      rw [spansFrom_token place rfl, Glsl.keysAt?, if_neg (by simp), if_neg (by simp [expected_]), behind]
    | number n =>
      rw [spansFrom_token place rfl, Glsl.keysAt?, if_neg (by simp), if_neg (by simp), behind]
    | mark c =>
      have other : ¬ TokenKind.punct c = .punct ',' := by simpa using comma
      rw [spansFrom_token place rfl, Glsl.keysAt?, if_neg other, if_neg (by simp), behind]

theorem headAt? (here : StandAt source place ps) :
    Glsl.headAt? source (spansFrom place ps) = some (headOf ps) := by
  fun_induction headOf ps generalizing place with
  | case1 => rfl
  | case2 rest =>
    rw [spansFrom_token place rfl, Glsl.headAt?, List.takeWhile_cons_of_neg (by simp)]
    rfl
  | case3 rest =>
    rw [spansFrom_token place rfl, Glsl.headAt?, List.takeWhile_cons_of_neg (by simp)]
    rfl
  | case4 w rest ih =>
    rw [spansFrom_token place rfl, headAt?_cons _ (by simp), if_pos rfl, here.text?, ih here.tail]
    rfl
  | case5 p rest semi brace word ih =>
    have behind := ih here.tail
    cases p with
    | blank run => rwa [spansFrom_other place rfl]
    | comment text => rwa [spansFrom_other place rfl]
    | word w => exact absurd rfl (word w)
    | number n => rwa [spansFrom_token place rfl, headAt?_cons _ (by simp), if_neg (by simp)]
    | mark c =>
      have more : TokenKind.punct c ≠ .punct ';' ∧ TokenKind.punct c ≠ .punct '\x7b' :=
        ⟨by simpa using semi, by simpa using brace⟩
      rwa [spansFrom_token place rfl, headAt?_cons _ more, if_neg (by simp)]

end StandAt

theorem tokensBetween?_append (front middle back : List Token) :
    tokensBetween? (front ++ (middle ++ back)) front.length (front.length + middle.length) =
      some middle := by
  unfold tokensBetween?
  rw [if_pos (by simp)]
  simp [List.take_append]

section Run

variable {source : List Char} {place : Nat}

theorem startsClause?_of_stand {p : Piece} {kind : TokenKind} {rest : List Piece}
    (here : StandAt source place (p :: rest)) (token : p.kind? = some kind) :
    ∃ starts, startsClause? source ⟨kind, place, place + width p.text⟩
        (spansFrom (place + width p.text) rest).head? = some starts ∧
      (starts = true ↔ ∃ inside, Opens (p :: rest) inside) := by
  rw [exists_opens_iff]
  unfold startsClause?
  cases p with
  | blank run => cases token
  | comment text => cases token
  | word w =>
    cases token
    rw [if_pos rfl, here.text?]
    refine ⟨_, rfl, ?_⟩
    rw [decide_eq_true_iff, head?_spansFrom, Piece.word.injEq]
    rfl
  | number n =>
    cases token
    exact ⟨false, rfl, by simp⟩
  | mark c =>
    cases token
    exact ⟨false, rfl, by simp⟩

theorem closingFrom?_open {gap : List Piece} (silent : Silent gap) (inside : List Piece) (i : Nat) :
    closingFrom? 0 i (spansFrom place (gap ++ .mark '(' :: inside)) =
      some ((splitClosing 0 inside).map fun r => i + (tokens r.1).length) := by
  rw [spansFrom_append, spansFrom_silent place silent, List.nil_append, spansFrom_token _ rfl, closingFrom?,
    if_pos rfl, closingFrom?_spansFrom]
  congr 2
  funext r
  omega

theorem Clause.Spans.tokens {c : Clause} {after : List Piece} (spans : c.Spans after)
    (here : StandAt source place (c.pieces ++ after)) :
    ∃ t u inner v, spansFrom place (c.pieces ++ after) =
        t :: u :: (inner ++ v :: spansFrom (place + width c.text) after) ∧
      (Glsl.tokens c.pieces).length = inner.length + 3 ∧
      t.span.start = place ∧ v.span.stop = place + width c.text ∧
      Glsl.keysAt? source true inner = some c.keys := by
  obtain ⟨gap, body, silent, _, whole, keys, _⟩ := spans
  let front : List Piece := .word layoutWord :: (gap ++ [.mark '('])
  have split : c.pieces = front ++ (body ++ [.mark ')']) := by
    rw [whole]
    simp [front]
  obtain ⟨u, opening⟩ : ∃ u, spansFrom place front = [⟨.ident, place, place + width layoutWord⟩, u] := by
    rw [spansFrom_token place rfl, spansFrom_append, spansFrom_silent _ silent]
    exact ⟨_, rfl⟩
  let inside := place + width (textOf front)
  let last := inside + width (textOf body)
  have stop : last + width [')'] = place + width c.text := by
    rw [Clause.text, split, textOf_append, textOf_append, width_append, width_append]
    simp only [last, inside, Nat.add_assoc]
    rfl
  refine ⟨⟨.ident, place, place + width layoutWord⟩, u, spansFrom inside body,
    ⟨.punct ')', last, last + width [')']⟩, ?_, ?_, rfl, stop, ?_⟩
  · rw [split, List.append_assoc, spansFrom_append, opening, List.append_assoc, spansFrom_append,
      List.singleton_append, spansFrom_token _ rfl, ← stop]
    rfl
  · rw [length_spansFrom, split, tokens_append, tokens_word, tokens_append, tokens_silent silent,
      tokens_append, List.length_append, List.length_append, Nat.add_comm, Nat.add_assoc]
    rfl
  · have body_at : StandAt source inside body := by
      rw [split, List.append_assoc, List.append_assoc] at here
      exact here.drop.take
    rw [body_at.keysAt?, keysOf_eq, keys]

theorem editAt?_eq {w : Written} (ts : List Token) {c : Clause} {after : List Piece}
    (spans : c.Spans after) (here : StandAt source place (c.pieces ++ after)) (written : w.cursor ≤ place) :
    editAt? source (ts ++ spansFrom place (c.pieces ++ after)) w ts.length
        (ts.length + (Glsl.tokens c.pieces).length - 1) =
      edit? source ⟨place, place + width c.text⟩ w c.fate := by
  obtain ⟨t, u, inner, v, list, count, start, stop, keys⟩ := spans.tokens here
  have head : headAt? source (spansFrom (place + width c.text) after) = some c.head := by
    obtain ⟨_, _, _, _, _, _, head⟩ := spans
    have behind := here.drop.headAt?
    rwa [headOf_eq, ← head] at behind
  have text : (Span.mk place (place + width c.text)).text? source = some c.text := here.take.text_eq
  have close : ts.length + (inner.length + 3) - 1 = ts.length + 2 + inner.length := by omega
  rw [list, count, close]
  generalize spansFrom (place + width c.text) after = later at head
  have inside : tokensBetween? (ts ++ t :: u :: (inner ++ v :: later)) (ts.length + 2)
      (ts.length + 2 + inner.length) = some inner := by
    have middle := tokensBetween?_append (ts ++ [t, u]) inner (v :: later)
    simpa using middle
  have behind : tokensBetween? (ts ++ t :: u :: (inner ++ v :: later))
      (ts.length + 2 + inner.length + 1) (ts ++ t :: u :: (inner ++ v :: later)).length =
        some later := by
    have last := tokensBetween?_append (ts ++ t :: u :: (inner ++ [v])) later []
    simpa [Nat.add_assoc, Nat.add_comm, Nat.add_left_comm] using last
  have first : (ts ++ t :: u :: (inner ++ v :: later))[ts.length]? = some t := by simp
  have last : (ts ++ t :: u :: (inner ++ v :: later))[ts.length + 2 + inner.length]? = some v := by
    have split : ts ++ t :: u :: (inner ++ v :: later) = (ts ++ t :: u :: inner) ++ v :: later := by
      simp
    have long : ts.length + 2 + inner.length = (ts ++ t :: u :: inner).length := by
      simp
      omega
    rw [split, long, List.getElem?_append_right (Nat.le_refl _), Nat.sub_self]
    rfl
  unfold editAt?
  rw [inside, behind, first, last]
  simp only [Option.bind_eq_bind, Option.bind_some, keys, head, start, stop, text]
  rw [if_neg (Nat.not_lt.mpr written)]
  rfl

theorem turn?_append (ts : List Token) (t : Token) (later : List Token) (w : Written) :
    turn? source (ts ++ t :: later) ts.length w = (do
      if ← startsClause? source t later.head? then
        match ← closingFrom? 0 (ts.length + 1) later with
        | none => return none
        | some close =>
          return some (close + 1, ← editAt? source (ts ++ t :: later) w ts.length close)
      else return some (ts.length + 1, w)) := by
  have here : (ts ++ t :: later)[ts.length]? = some t := by simp
  have next : (ts ++ t :: later)[ts.length + 1]? = later.head? := by
    rw [List.getElem?_append_right (Nat.le_add_right _ 1), Nat.add_sub_cancel_left,
      List.head?_eq_getElem?]
    rfl
  have behind : (ts ++ t :: later).drop (ts.length + 1) = later := by simp
  unfold turn? matchingParen?
  rw [here, next, behind]

end Run

end SceneGpu.Glsl
