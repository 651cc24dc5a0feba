import SceneGpu.Proofs.Glsl.Clauses
import SceneGpu.Proofs.Glsl.Cut
import SceneGpu.Proofs.Glsl.Rules
/-!
Adjusting a text edits its clauses and leaves the rest alone. That the tokens around a removed clause
stay the same rests on what can stand before the word `layout`: a word or a number cannot, so only a
slash can run into what moves up.
-/
namespace SceneGpu.Glsl

def sharedPieces : List Piece :=
  [.word layoutWord, .mark '(', .word "std140".toList, .mark ')']

def dropBlank : List Piece → List Piece
  | .blank _ :: rest => rest
  | ps => ps

namespace Passage

def text (q : Passage) : List Char := q.clause.text ++ textOf q.gap

def editedText (q : Passage) : List Char :=
  match q.clause.fate with
  | .keep => q.clause.text ++ textOf q.gap
  | .remove => (textOf q.gap).dropWhile Text.isBlank
  | .replace => sharedLayout.toList ++ textOf q.gap

def editedTokens (q : Passage) : List Piece :=
  match q.clause.fate with
  | .keep => tokens q.clause.pieces ++ tokens q.gap
  | .remove => tokens q.gap
  | .replace => sharedPieces ++ tokens q.gap

def edited (q : Passage) : List Piece :=
  match q.clause.fate with
  | .keep => q.clause.pieces ++ q.gap
  | .remove => dropBlank q.gap
  | .replace => sharedPieces ++ q.gap

end Passage

theorem Found.dropBlank {ps lead : List Piece} {passages : List Passage}
    (found : Found ps lead passages) : Found (Glsl.dropBlank ps) (Glsl.dropBlank lead) passages := by
  cases found with
  | nil => exact .nil
  | @plain p _ _ _ other more =>
    cases p with
    | blank run => exact more
    | _ => exact .plain other more
  | unclosed opens never =>
    obtain ⟨gap, silent, rfl⟩ := opens
    exact .unclosed ⟨gap, silent, rfl⟩ never
  | @clause c after _ _ spans more =>
    have first : Glsl.dropBlank (c.pieces ++ after) = c.pieces ++ after := by
      obtain ⟨_, _, _, _, whole, _⟩ := spans
      rw [whole]
      rfl
    rw [first]
    exact .clause spans more

theorem textOf_sharedPieces : textOf sharedPieces = sharedLayout.toList := by decide

theorem render_plain (ps : List Piece) (rest : List Segment) :
    render false (ps.map .plain ++ rest) = textOf ps ++ render false rest := by
  induction ps with
  | nil => rfl
  | cons p more ih =>
    rw [List.map_cons, List.cons_append, render, ih, textOf_cons, List.append_assoc]
    intro _ never
    cases never

theorem render_gap (gap : List Piece) (passages : List Passage) :
    render true (gap.map .plain ++ passages.flatMap Passage.segments) =
      textOf (dropBlank gap) ++ render false (passages.flatMap Passage.segments) := by
  have next (p : Piece) (more : List Piece) (other : ∀ run, p ≠ .blank run) :
      render true (.plain p :: (more.map .plain ++ passages.flatMap Passage.segments)) =
        textOf (p :: more) ++ render false (passages.flatMap Passage.segments) := by
    rw [render, render_plain, textOf_cons, List.append_assoc]
    intro run _ eq
    exact other run eq
  cases gap with
  | nil =>
    cases passages with
    | nil => rfl
    | cons q more => rfl
  | cons p more =>
    cases p with
    | blank run => exact render_plain more _
    | _ => exact next _ _ (by simp)

theorem render_passages (passages : List Passage) :
    render false (passages.flatMap Passage.segments) = textOf (passages.flatMap Passage.edited) := by
  induction passages with
  | nil => rfl
  | cons q more ih =>
    rw [List.flatMap_cons, List.flatMap_cons, textOf_append, ← ih]
    change render false (.clause q.clause :: (q.gap.map .plain ++ more.flatMap Passage.segments)) = _
    unfold Passage.edited
    rw [render]
    cases q.clause.fate with
    | keep =>
      dsimp only
      rw [render_plain, textOf_append, List.append_assoc]
      rfl
    | remove => exact render_gap q.gap more
    | replace =>
      dsimp only
      rw [render_plain, textOf_append, List.append_assoc, textOf_sharedPieces]

theorem stripLayout_eq {source : List Char} {lead : List Piece} {passages : List Passage}
    (found : Found (pieces source) lead passages) :
    stripLayout source = textOf (lead ++ passages.flatMap Passage.edited) := by
  unfold stripLayout
  rw [found.segments_eq, shown, render_plain, render_passages, textOf_append]

def Inked (ps : List Piece) : Prop := ∀ d, (textOf ps).head? = some d → Text.isBlank d = false

theorem inked_cons {p : Piece} {ps : List Piece} (stands : p.Stands (textOf ps))
    (other : ∀ run, p ≠ .blank run) : Inked (p :: ps) := by
  intro d head
  rw [head?_textOf_cons stands ps] at head
  obtain ⟨c, more, text, cut⟩ := stands
  rw [text, List.head?_cons, Option.some.injEq] at head
  subst head
  cases blank : Text.isBlank c with
  | false => rfl
  | true =>
    rw [firstPiece_blank blank] at cut
    exact absurd (Prod.mk.inj cut).1.symm (other _)

theorem inked_dropBlank {gap back : List Piece} (well : WellCut (gap ++ back)) (inked : Inked back) :
    Inked (dropBlank gap ++ back) := by
  cases gap with
  | nil => exact inked
  | cons p more =>
    cases p with
    | blank run =>
      intro d head
      have stands : (Piece.blank run).Stands (textOf (more ++ back)) := well.1
      obtain ⟨t, next⟩ := List.head?_eq_some_iff.mp head
      rw [show textOf (more ++ back) = d :: t from next] at stands
      exact Bool.eq_false_iff.mpr stands.not_takes
    | _ => exact inked_cons well.1 (by simp)

theorem wellCut_dropBlank {gap back : List Piece} (well : WellCut (gap ++ back)) :
    WellCut (dropBlank gap ++ back) := by
  cases gap with
  | nil => exact well
  | cons p more =>
    cases p with
    | blank run => exact well.2
    | _ => exact well

theorem close_stands (rest : List Char) : (Piece.mark ')').Stands rest :=
  ⟨')', [], rfl, firstPiece_mark (by decide) (by decide) (by decide) (by simp)⟩

theorem wellCut_shared {ps : List Piece} (well : WellCut ps) : WellCut (sharedPieces ++ ps) := by
  have layout : (Piece.word layoutWord).Stands ['('] := ⟨'l', "ayout".toList, by decide, by decide⟩
  have std140 : (Piece.word "std140".toList).Stands [')'] :=
    ⟨'s', "td140".toList, by decide, by decide⟩
  have opens (rest : List Char) : (Piece.mark '(').Stands rest :=
    ⟨'(', [], rfl, firstPiece_mark (by decide) (by decide) (by decide) (by simp)⟩
  exact ⟨layout.of_head? rfl, opens _, std140.of_head? rfl, close_stands _, well⟩

theorem head?_textOf_layout (ps : List Piece) :
    (textOf (.word layoutWord :: ps)).head? = some 'l' := rfl

/-- Behind what stands before `layout` any text may follow that does not start with a blank. -/
theorem Piece.Stands.of_layout {p : Piece} {more ps : List Piece}
    (stands : p.Stands (textOf (.word layoutWord :: more))) (slash : p ≠ .mark '/')
    (inked : Inked ps) : p.Stands (textOf ps) := by
  obtain ⟨t, layout⟩ := List.head?_eq_some_iff.mp (head?_textOf_layout more)
  rw [layout] at stands
  refine stands.before (List.cons_ne_nil 'l' t) ?_
  intro d head
  cases p with
  | blank run => exact Bool.eq_false_iff.mp (inked d head)
  | comment text => exact id
  | word w => exact absurd (show isWordPart 'l' = true by decide) stands.not_takes
  | number n => exact absurd (show isNumberPart 'l' = true by decide) stands.not_takes
  | mark c =>
    rintro ⟨rfl, _⟩
    exact slash rfl

theorem wellCut_edited {front back more : List Piece} {q : Passage}
    (layout : q.clause.pieces = .word layoutWord :: more)
    (well : WellCut (front ++ (q.pieces ++ back))) (inked : Inked back)
    (apart : q.clause.fate = .remove → front.getLast? ≠ some (.mark '/')) :
    WellCut (front ++ (q.edited ++ back)) ∧ Inked (q.edited ++ back) := by
  have whole : q.pieces ++ back = .word layoutWord :: (more ++ (q.gap ++ back)) := by
    simp [Passage.pieces, layout]
  have starts (ps : List Piece) : Inked (.word layoutWord :: ps) := by
    intro d head
    rw [head?_textOf_layout, Option.some.injEq] at head
    subst head
    decide
  have behind : WellCut (q.gap ++ back) := by
    have split : front ++ (q.pieces ++ back) = (front ++ q.clause.pieces) ++ (q.gap ++ back) := by
      simp [Passage.pieces]
    rw [split] at well
    exact wellCut_of_append well
  unfold Passage.edited
  cases fate : q.clause.fate with
  | keep =>
    refine ⟨well, ?_⟩
    have inked := starts (more ++ (q.gap ++ back))
    rwa [← whole] at inked
  | remove =>
    have inked := inked_dropBlank behind inked
    refine ⟨wellCut_swap well ?_ (wellCut_dropBlank behind), inked⟩
    intro p last stands
    rw [whole] at stands
    refine stands.of_layout ?_ inked
    rintro rfl
    exact apart fate last
  | replace =>
    dsimp only
    rw [List.append_assoc]
    refine ⟨wellCut_swap well ?_ (wellCut_shared behind), starts _⟩
    intro p last stands
    refine stands.of_head? ?_
    rw [whole, head?_textOf_layout]
    rfl

def ahead (front : List Piece) : List Passage → List (List Piece × Passage)
  | [] => []
  | q :: rest => (front, q) :: ahead (front ++ q.pieces) rest

/-- No clause that is removed stands right behind a slash. -/
def Apart (lead : List Piece) (passages : List Passage) : Prop :=
  ∀ r ∈ ahead lead passages, r.2.clause.fate = .remove → r.1.getLast? ≠ some (.mark '/')

instance (lead : List Piece) (passages : List Passage) : Decidable (Apart lead passages) :=
  inferInstanceAs (Decidable (∀ r ∈ ahead lead passages, _))

theorem wellCut_edits {lead : List Piece} {passages : List Passage}
    (layout : ∀ q ∈ passages, ∃ more, q.clause.pieces = .word layoutWord :: more)
    (well : WellCut (lead ++ passages.flatMap Passage.pieces)) (apart : Apart lead passages) :
    WellCut (lead ++ passages.flatMap Passage.edited) ∧ Inked (passages.flatMap Passage.edited) := by
  -- The last clause is edited first, with the others unchanged in front of it.
  induction passages generalizing lead with
  | nil =>
    refine ⟨well, ?_⟩
    intro d head
    cases head
  | cons q rest ih =>
    obtain ⟨more, first⟩ := layout q List.mem_cons_self
    have others : WellCut ((lead ++ q.pieces) ++ rest.flatMap Passage.edited) ∧
        Inked (rest.flatMap Passage.edited) := by
      refine ih (fun r mem => layout r (List.mem_cons_of_mem q mem)) ?_ ?_
      · rw [List.append_assoc]
        exact well
      · intro r mem
        exact apart r (List.mem_cons_of_mem (lead, q) mem)
    obtain ⟨well, inked⟩ := others
    rw [List.append_assoc] at well
    exact wellCut_edited first well inked (apart (lead, q) List.mem_cons_self)

theorem Inked.dropWhile {ps : List Piece} (inked : Inked ps) :
    (textOf ps).dropWhile Text.isBlank = textOf ps := by
  unfold Inked at inked
  cases text : textOf ps with
  | nil => rfl
  | cons d t =>
    rw [text] at inked
    rw [List.dropWhile_cons_of_neg]
    exact Bool.eq_false_iff.mp (inked d rfl)

theorem isBlank_of_stands {run rest : List Char} (stands : (Piece.blank run).Stands rest) :
    ∀ d ∈ run, Text.isBlank d = true := by
  obtain ⟨c, more, rfl, cut⟩ := stands
  have first : Text.isBlank c = true := by
    cases start c (more ++ rest) with
    | blank blank => exact blank
    | line slash t next => simp [slash, next, firstPiece_line] at cut
    | block slash t next => simp [slash, next, firstPiece_block] at cut
    | word blank word => simp [firstPiece_word blank word] at cut
    | number blank word digit => simp [firstPiece_number blank word digit] at cut
    | mark blank word digit alone => simp [firstPiece_mark blank word digit alone] at cut
  rw [firstPiece_blank first] at cut
  obtain ⟨whole, _⟩ := Prod.mk.inj cut
  have all : (more ++ rest).takeWhile Text.isBlank = more := by simpa using whole
  intro d mem
  rcases List.mem_cons.mp mem with rfl | mem
  · exact first
  · rw [← all] at mem
    exact List.mem_takeWhile_imp mem

theorem textOf_dropBlank {gap : List Piece} (well : WellCut gap) :
    textOf (dropBlank gap) = (textOf gap).dropWhile Text.isBlank := by
  have inked : Inked (dropBlank gap) := by
    have nothing : Inked [] := by
      intro d head
      cases head
    have alone : Inked (dropBlank gap ++ []) := inked_dropBlank (by rwa [List.append_nil]) nothing
    rwa [List.append_nil] at alone
  cases gap with
  | nil => rfl
  | cons p more =>
    cases p with
    | blank run =>
      have all : ∀ d ∈ run, Text.isBlank d = true := isBlank_of_stands well.1
      rw [textOf_cons, Piece.text, List.dropWhile_append_of_pos all]
      exact inked.dropWhile.symm
    | _ => exact inked.dropWhile.symm

theorem textOf_edited {q : Passage} (well : WellCut q.gap) : textOf q.edited = q.editedText := by
  unfold Passage.edited Passage.editedText
  cases q.clause.fate with
  | keep => exact textOf_append _ _
  | remove => exact textOf_dropBlank well
  | replace =>
    dsimp only
    rw [textOf_append, textOf_sharedPieces]

theorem tokens_edited (q : Passage) : tokens q.edited = q.editedTokens := by
  unfold Passage.edited Passage.editedTokens
  cases q.clause.fate with
  | keep => exact tokens_append _ _
  | remove =>
    cases q.gap with
    | nil => rfl
    | cons p more => cases p <;> rfl
  | replace => exact tokens_append _ _

theorem tokens_edits (lead : List Piece) (passages : List Passage) :
    tokens (lead ++ passages.flatMap Passage.edited) =
      tokens lead ++ passages.flatMap Passage.editedTokens := by
  rw [tokens_append]
  congr 1
  induction passages with
  | nil => rfl
  | cons q rest ih => rw [List.flatMap_cons, tokens_append, ih, tokens_edited, List.flatMap_cons]

theorem textOf_flatMap {f : Passage → List Piece} {g : Passage → List Char}
    {passages : List Passage} (each : ∀ q ∈ passages, textOf (f q) = g q) :
    textOf (passages.flatMap f) = passages.flatMap g := by
  induction passages with
  | nil => rfl
  | cons q rest ih =>
    rw [List.flatMap_cons, textOf_append, each q List.mem_cons_self, List.flatMap_cons]
    rw [ih fun r mem => each r (List.mem_cons_of_mem q mem)]

section Of

variable {lead : List Piece} {passages : List Passage}

theorem wellCut_gap (well : WellCut (lead ++ passages.flatMap Passage.pieces)) :
    ∀ q ∈ passages, WellCut q.gap := by
  intro q mem
  obtain ⟨front, back, rfl⟩ := List.append_of_mem mem
  rw [List.flatMap_append, List.flatMap_cons, ← List.append_assoc] at well
  have here : WellCut (q.clause.pieces ++ q.gap ++ back.flatMap Passage.pieces) :=
    wellCut_of_append well
  rw [List.append_assoc] at here
  exact wellCut_front (wellCut_of_append here)

variable {source : List Char} (found : Found (pieces source) lead passages)
include found

theorem wellCut_found : WellCut (lead ++ passages.flatMap Passage.pieces) := by
  rw [← found.pieces_eq]
  exact wellCut_pieces source

theorem text_found : source = textOf lead ++ passages.flatMap Passage.text := by
  have texts : textOf (passages.flatMap Passage.pieces) = passages.flatMap Passage.text :=
    textOf_flatMap fun q _ => textOf_append q.clause.pieces q.gap
  have whole := textOf_pieces source
  rw [found.pieces_eq, textOf_append, texts] at whole
  exact whole.symm

theorem text_stripLayout :
    stripLayout source = textOf lead ++ passages.flatMap Passage.editedText := by
  have texts : textOf (passages.flatMap Passage.edited) = passages.flatMap Passage.editedText :=
    textOf_flatMap fun q mem => textOf_edited (wellCut_gap (wellCut_found found) q mem)
  rw [stripLayout_eq found, textOf_append, texts]

theorem pieces_stripLayout (apart : Apart lead passages) :
    pieces (stripLayout source) = lead ++ passages.flatMap Passage.edited := by
  have layout : ∀ q ∈ passages, ∃ more, q.clause.pieces = .word layoutWord :: more := by
    intro q mem
    obtain ⟨_, _, _, _, _, whole, _⟩ := found.spans q mem
    exact ⟨_, whole⟩
  have well := (wellCut_edits layout (wellCut_found found) apart).1
  rw [stripLayout_eq found, pieces_textOf well]

end Of

/-- Each clause is edited by the rules, and all else stays: the text up to the blanks directly behind
a removed clause, the tokens if no removed clause stands right behind a slash. -/
theorem stripLayoutText_edits (source : String) :
    (∃! found : List Piece × List Passage, Found (pieces source.toList) found.1 found.2) ∧
    ∀ lead passages, Found (pieces source.toList) lead passages →
      (∀ q ∈ passages, Ruled q.clause.head q.clause.keys q.clause.fate) ∧
      pieces source.toList = lead ++ passages.flatMap Passage.pieces ∧
      source.toList = textOf lead ++ passages.flatMap Passage.text ∧
      (stripLayoutText source).toList = textOf lead ++ passages.flatMap Passage.editedText ∧
      (Apart lead passages → tokens (pieces (stripLayoutText source).toList) =
        tokens lead ++ passages.flatMap Passage.editedTokens) := by
  constructor
  · refine ⟨gather (segments (pieces source.toList)), found_gather _, ?_⟩
    intro other found
    obtain ⟨lead, passages⟩ := (found_gather _).unique found
    exact Prod.ext lead passages
  intro lead passages found
  have result : (stripLayoutText source).toList = stripLayout source.toList :=
    String.toList_ofList
  rw [result]
  refine ⟨?_, found.pieces_eq, text_found found, text_stripLayout found, ?_⟩
  · intro q _
    exact ruled_classify q.clause.head q.clause.keys
  · intro apart
    rw [pieces_stripLayout found apart, tokens_edits]

theorem stripLayoutText_edits_two_clauses :
    let source := "layout(set = 0) uniform sampler2D t; // t\nlayout(set = 1) uniform B b;"
    ∃ lead passages, Found (pieces source.toList) lead passages ∧ Apart lead passages ∧
      passages.map (fun q => q.clause.fate) = [.remove, .replace] ∧
      tokens (pieces (stripLayoutText source).toList) =
        tokens lead ++ passages.flatMap Passage.editedTokens ∧
      stripLayoutText source = "uniform sampler2D t; // t\nlayout(std140) uniform B b;" := by
  intro source
  have found := found_gather (pieces source.toList)
  have apart : Apart (gather (segments (pieces source.toList))).1
      (gather (segments (pieces source.toList))).2 := by decide +kernel
  obtain ⟨_, _, _, _, same⟩ := (stripLayoutText_edits source).2 _ _ found
  refine ⟨_, _, found, apart, ?_, same apart, ?_⟩
  · decide +kernel
  · decide +kernel

end SceneGpu.Glsl
