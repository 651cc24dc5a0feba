import SceneGpu.Proofs.Glsl.Slices
import SceneGpu.Proofs.Glsl.Unambiguous
/-!
The run of the loop. Before each turn the pieces are those that are written, those that are passed over, and
those to come; a clause moves what is passed over to what is written, or adds itself to it.
-/
namespace SceneGpu.Glsl

section Run

variable {source : List Char} {place : Nat}

/-- The loop came to a place: the text of `front` is written, `pending` is passed over. -/
structure Reached (source : List Char) (place : Nat) (w : Written)
    (front pending back : List Piece) : Prop where
  whole : pieces source = (front ++ pending) ++ back
  count : place = (tokens (front ++ pending)).length
  cursor : w.cursor = width (textOf front)

namespace Reached

variable {w : Written} {front pending back : List Piece}

theorem standAt (reached : Reached source place w front pending back) :
    StandAt source (width (textOf (front ++ pending))) back := by
  refine ⟨textOf (front ++ pending), [], ?_, rfl⟩
  rw [List.append_nil, ← textOf_append, ← reached.whole, textOf_pieces]

theorem tokenize_eq (reached : Reached source place w front pending back) :
    ∃ ts, tokenize source = ts ++ spansFrom (width (textOf (front ++ pending))) back ∧
      place = ts.length := by
  refine ⟨spansFrom 0 (front ++ pending), ?_, ?_⟩
  · rw [Glsl.tokenize_eq, reached.whole, spansFrom_append, Nat.zero_add]
  · rw [reached.count, length_spansFrom]

theorem pass {ps : List Piece} (reached : Reached source place w front pending (ps ++ back)) :
    Reached source (place + (tokens ps).length) w front (pending ++ ps) back where
  whole := by
    rw [reached.whole]
    simp
  count := by rw [reached.count, ← List.append_assoc, tokens_append _ ps, List.length_append]
  cursor := reached.cursor

theorem turn?_end (reached : Reached source place w front pending []) :
    turn? source (tokenize source) place w = some none := by
  obtain ⟨ts, whole, rfl⟩ := reached.tokenize_eq
  unfold turn?
  rw [whole, spansFrom_nil, List.append_nil, List.getElem?_eq_none (Nat.le_refl _)]

theorem turn?_token {p : Piece} {kind : TokenKind} {rest : List Piece} (token : p.kind? = some kind)
    (other : ∀ inside, ¬ Opens (p :: rest) inside)
    (reached : Reached source place w front pending (p :: rest)) :
    turn? source (tokenize source) place w = some (some (place + 1, w)) := by
  obtain ⟨ts, whole, rfl⟩ := reached.tokenize_eq
  obtain ⟨starts, look, clause⟩ := startsClause?_of_stand reached.standAt token
  have plain : starts = false := by
    rw [Bool.eq_false_iff, Ne, clause]
    rintro ⟨inside, opens⟩
    exact other inside opens
  rw [whole, spansFrom_token _ token, turn?_append, look, plain]
  rfl

theorem turn?_unclosed {ps inside : List Piece} (opens : Opens ps inside)
    (never : ∀ body after, inside = body ++ .mark ')' :: after → ¬ Balanced body)
    (reached : Reached source place w front pending ps) :
    turn? source (tokenize source) place w = some none := by
  obtain ⟨ts, whole, rfl⟩ := reached.tokenize_eq
  obtain ⟨gap, silent, rfl⟩ := opens
  obtain ⟨starts, look, clause⟩ := startsClause?_of_stand reached.standAt rfl
  have layout : starts = true := clause.mpr ⟨inside, gap, silent, rfl⟩
  rw [whole, spansFrom_token _ rfl, turn?_append, look, layout]
  simp only [Option.bind_eq_bind, Option.bind_some, if_true]
  rw [closingFrom?_open silent, splitClosing_eq_none never]
  rfl

theorem turn?_clause {c : Clause} {after : List Piece} (spans : c.Spans after)
    (reached : Reached source place w front pending (c.pieces ++ after)) :
    turn? source (tokenize source) place w =
      (edit? source ⟨width (textOf (front ++ pending)), width (textOf (front ++ pending)) + width c.text⟩
        w c.fate).map fun v => some (place + (tokens c.pieces).length, v) := by
  obtain ⟨ts, whole, rfl⟩ := reached.tokenize_eq
  have here := reached.standAt
  have written : w.cursor ≤ width (textOf (front ++ pending)) := by
    rw [reached.cursor, textOf_append, width_append]
    exact Nat.le_add_right _ _
  have edit := editAt?_eq ts spans here written
  obtain ⟨gap, body, silent, balanced, clause, _⟩ := spans
  have split : c.pieces ++ after =
      .word layoutWord :: (gap ++ .mark '(' :: (body ++ .mark ')' :: after)) := by
    rw [clause]
    simp
  have closed : ts.length + 1 + (tokens (body ++ [.mark ')'])).length =
      ts.length + (tokens c.pieces).length - 1 := by
    rw [clause, tokens_word, tokens_append gap, tokens_silent silent, List.nil_append, tokens_mark]
    simp only [List.length_cons]
    omega
  have next : ts.length + (tokens c.pieces).length - 1 + 1 = ts.length + (tokens c.pieces).length := by
    omega
  rw [whole, ← edit]
  rw [split] at here ⊢
  obtain ⟨starts, look, isClause⟩ := startsClause?_of_stand here rfl
  have layout : starts = true := isClause.mpr ⟨_, gap, silent, rfl⟩
  rw [spansFrom_token _ rfl, turn?_append, look, layout]
  simp only [Option.bind_eq_bind, Option.bind_some, if_true]
  rw [closingFrom?_open silent, splitClosing_of_level balanced, Option.map_some, closed]
  simp only [Option.bind_some, next]
  rw [Option.map_eq_bind]
  rfl

theorem write {ps : List Piece} {v : Written}
    (reached : Reached source place w front pending (ps ++ back))
    (cursor : v.cursor = width (textOf (front ++ pending ++ ps))) :
    Reached source (place + (tokens ps).length) v (front ++ pending ++ ps) [] back where
  whole := by rw [reached.whole, List.append_nil, List.append_assoc _ ps]
  count := by rw [reached.count, List.append_nil, tokens_append _ ps, List.length_append]
  cursor := cursor

end Reached

theorem exists_blank (ps : List Piece) : ∃ blank, Silent blank ∧ ps = blank ++ dropBlank ps := by
  cases ps with
  | nil => exact ⟨[], List.forall_mem_nil _, rfl⟩
  | cons p rest =>
    cases p with
    | blank run => exact ⟨[.blank run], by simp [Silent, Piece.isToken], rfl⟩
    | _ => exact ⟨[], List.forall_mem_nil _, rfl⟩

theorem trailing_eq {ps blank : List Piece} (well : WellCut ps) (split : ps = blank ++ dropBlank ps) :
    width (textOf ps) - width ((textOf ps).dropWhile Text.isBlank) = width (textOf blank) := by
  rw [← textOf_dropBlank well]
  have whole : width (textOf ps) = width (textOf blank) + width (textOf (dropBlank ps)) := by
    rw [← width_append, ← textOf_append, ← split]
  omega

/-- Behind a clause the loop goes on, with the result `v` in place of `w`. What is written and what is passed
over then make up the text of the edited pieces. -/
def GoesOn (source : List Char) (place : Nat) (w v : Written) (pending : List Piece) (c : Clause)
    (after : List Piece) : Prop :=
  ∃ front' pending' back', Reached source (place + (tokens c.pieces).length) v front' pending' back' ∧
    back'.length ≤ after.length ∧
    ∀ lead passages, Found after lead passages → ∃ lead', Found back' lead' passages ∧
      ∀ rest, v.out ++ textOf (pending' ++ (lead' ++ rest)) =
        w.out ++ textOf (pending ++ ((Passage.mk c lead).edited ++ rest))

namespace Reached

variable {w : Written} {front pending after : List Piece} {c : Clause}

theorem kept (fate : c.fate = .keep)
    (reached : Reached source place w front pending (c.pieces ++ after)) :
    GoesOn source place w w pending c after := by
  refine ⟨front, pending ++ c.pieces, after, reached.pass, Nat.le_refl _, ?_⟩
  intro lead passages found
  refine ⟨lead, found, fun rest => ?_⟩
  have edited : (Passage.mk c lead).edited = c.pieces ++ lead := by
    unfold Passage.edited
    rw [fate]
  rw [edited, List.append_assoc, List.append_assoc]

theorem replaced (fate : c.fate = .replace)
    (reached : Reached source place w front pending (c.pieces ++ after)) :
    GoesOn source place w
      ⟨width (textOf (front ++ pending ++ c.pieces)), w.out ++ textOf pending ++ sharedLayout.toList⟩
      pending c after := by
  refine ⟨_, [], after, reached.write rfl, Nat.le_refl _, ?_⟩
  intro lead passages found
  refine ⟨lead, found, fun rest => ?_⟩
  have edited : (Passage.mk c lead).edited = sharedPieces ++ lead := by
    unfold Passage.edited
    rw [fate]
  rw [edited, ← textOf_sharedPieces, List.nil_append, List.append_assoc sharedPieces,
    textOf_append pending, textOf_append sharedPieces]
  simp only [List.append_assoc]

theorem removed (fate : c.fate = .remove)
    (reached : Reached source place w front pending (c.pieces ++ after)) :
    GoesOn source place w
      ⟨width (textOf (front ++ pending ++ c.pieces)) +
        (width (textOf after) - width ((textOf after).dropWhile Text.isBlank)), w.out ++ textOf pending⟩
      pending c after := by
  obtain ⟨blank, silent, split⟩ := exists_blank after
  have well : WellCut after := by
    have all := wellCut_pieces source
    rw [reached.whole, ← List.append_assoc] at all
    exact wellCut_of_append all
  have count : (tokens (c.pieces ++ blank)).length = (tokens c.pieces).length := by
    rw [tokens_append, tokens_silent silent, List.append_nil]
  have upTo : Reached source place w front pending ((c.pieces ++ blank) ++ dropBlank after) := by
    rwa [List.append_assoc, ← split]
  have cursor : width (textOf (front ++ pending ++ c.pieces)) + width (textOf blank) =
      width (textOf (front ++ pending ++ (c.pieces ++ blank))) := by
    rw [← width_append, ← textOf_append, List.append_assoc _ c.pieces]
  rw [trailing_eq well split]
  refine ⟨_, [], dropBlank after, count ▸ upTo.write cursor, ?_, ?_⟩
  · have long := congrArg List.length split
    rw [List.length_append] at long
    omega
  · intro lead passages found
    refine ⟨dropBlank lead, found.dropBlank, fun rest => ?_⟩
    have edited : (Passage.mk c lead).edited = dropBlank lead := by
      unfold Passage.edited
      rw [fate]
    rw [edited, List.nil_append, textOf_append pending, List.append_assoc]

theorem edit?_clause (reached : Reached source place w front pending (c.pieces ++ after)) :
    ∃ v, edit? source ⟨width (textOf (front ++ pending)), width (textOf (front ++ pending)) + width c.text⟩
        w c.fate = some v ∧ GoesOn source place w v pending c after := by
  have stop : width (textOf (front ++ pending)) + width c.text =
      width (textOf (front ++ pending ++ c.pieces)) := by
    rw [textOf_append _ c.pieces, width_append]
    rfl
  have before : (Span.mk w.cursor (width (textOf (front ++ pending)))).text? source =
      some (textOf pending) := by
    rw [reached.cursor]
    exact text?_between reached.whole
  have behind : (Span.mk (width (textOf (front ++ pending ++ c.pieces))) (width source)).text? source =
      some (textOf after) := text?_behind (by rw [reached.whole, List.append_assoc _ c.pieces])
  rw [stop]
  unfold edit?
  cases fate : c.fate with
  | keep => exact ⟨w, rfl, reached.kept fate⟩
  | remove =>
    dsimp only
    rw [before, behind]
    exact ⟨_, rfl, reached.removed fate⟩
  | replace =>
    dsimp only
    rw [before]
    exact ⟨_, rfl, reached.replaced fate⟩

end Reached

theorem loop?_end {ts : List Token} {w : Written} (turn : turn? source ts place w = some none) :
    loop? source ts place w = some w := by
  rw [loop?.eq_def]
  split
  · rename_i found
    cases found.symm.trans turn
  · rfl
  · rename_i found
    cases found.symm.trans turn

theorem loop?_next {ts : List Token} {w v : Written} {next : Nat}
    (turn : turn? source ts place w = some (some (next, v))) :
    loop? source ts place w = loop? source ts next v := by
  rw [loop?.eq_def]
  split
  · rename_i found
    cases found.symm.trans turn
  · rename_i found
    cases found.symm.trans turn
  · rename_i found
    cases found.symm.trans turn
    rfl

theorem Reached.finish {w : Written} {front pending back : List Piece}
    (reached : Reached source place w front pending back) :
    finish? source w = some (w.out ++ textOf (pending ++ back)) := by
  unfold finish?
  rw [reached.cursor, text?_behind (by rw [reached.whole, List.append_assoc])]
  rfl

theorem Reached.run {w : Written} {front pending back lead : List Piece} {passages : List Passage}
    (reached : Reached source place w front pending back) (found : Found back lead passages) :
    (loop? source (tokenize source) place w).bind (finish? source) =
      some (w.out ++ textOf (pending ++ (lead ++ passages.flatMap Passage.edited))) := by
  -- A removed clause takes the blank behind it along, so the next turn need not start right behind it.
  induction size : back.length using Nat.strongRecOn
    generalizing place w front pending back lead passages with
  | ind n ih =>
    cases found with
    | nil =>
      rw [loop?_end reached.turn?_end]
      exact reached.finish
    | @plain p rest lead _ other more =>
      have shorter : rest.length < n := by
        rw [← size]
        exact Nat.lt_succ_self _
      have past : Reached source (place + (tokens [p]).length) w front (pending ++ [p]) rest :=
        Reached.pass reached
      have behind := ih rest.length shorter past more rfl
      rw [List.append_assoc] at behind
      cases token : p.kind? with
      | none => rwa [tokens_other token] at behind
      | some kind =>
        rw [tokens_token token] at behind
        rw [loop?_next (reached.turn?_token token other)]
        exact behind
    | unclosed opens never =>
      rw [loop?_end (reached.turn?_unclosed opens never), List.flatMap_nil, List.append_nil]
      exact reached.finish
    | @clause c after gap rest spans more =>
      obtain ⟨v, edit, front', pending', back', past, short, text⟩ := reached.edit?_clause
      obtain ⟨lead', found', text⟩ := text gap rest more
      have shorter : back'.length < n := by
        obtain ⟨_, _, _, _, whole, _⟩ := spans
        rw [← size, whole]
        simp
        omega
      have turn := reached.turn?_clause spans
      rw [edit] at turn
      rw [loop?_next turn, ih back'.length shorter past found' rfl, text, List.nil_append,
        List.flatMap_cons]

theorem strip?_eq (source : List Char) : strip? source = some (stripLayout source) := by
  obtain ⟨lead, passages, found⟩ := exists_found (pieces source)
  have start : Reached source 0 ⟨0, []⟩ [] [] (pieces source) := ⟨rfl, rfl, rfl⟩
  rw [stripLayout_eq found]
  exact start.run found

end Run

theorem StandAt.texts {source : List Char} {place : Nat} {ps : List Piece}
    (here : StandAt source place ps) :
    List.Forall₂ (fun t p => p.kind? = some t.kind ∧ t.span.Cuts source p.text)
      (spansFrom place ps) (tokens ps) := by
  induction ps generalizing place with
  | nil => exact .nil
  | cons p rest ih =>
    have behind := ih here.tail
    have text := Span.text?_eq_some_iff.mp here.text?
    cases token : p.kind? with
    | none => rwa [spansFrom_other place token, tokens_other token]
    | some kind =>
      rw [spansFrom_token place token, tokens_token token]
      exact .cons ⟨token, text⟩ behind

/-- The scanner takes every source apart into tokens, comments and blanks, in the only way there is. So no slice
of the adjustment is out of range or splits a character, no clause starts in front of what is written, and no
parenthesis closes that is not open. -/
theorem tokenize_partitions (source : List Char) :
    (∃ comments, Scanned source (tokenize source) comments ∧
      ∀ ts ks, Scanned source ts ks → ts = tokenize source ∧ ks = comments) ∧
    List.Forall₂ (fun t p => p.kind? = some t.kind ∧ t.span.Cuts source p.text)
      (tokenize source) (tokens (pieces source)) ∧
    strip? source = some (stripLayout source) := by
  refine ⟨?_, ?_, strip?_eq source⟩
  · refine ⟨commentSpans source, scanned_tokenize source, ?_⟩
    intro ts ks scanned
    exact scanned.unique (scanned_tokenize source)
  · rw [tokenize_eq]
    refine StandAt.texts ⟨[], [], ?_, rfl⟩
    rw [List.append_nil, textOf_pieces]
    rfl

/-- An identifier takes the digits in front of a dot. -/
example : tokenize "é1.5/*/ */x//".toList =
    [⟨.ident, 0, 3⟩, ⟨.punct '.', 3, 4⟩, ⟨.number, 4, 5⟩, ⟨.ident, 11, 12⟩] := by
  decide +kernel

end SceneGpu.Glsl
