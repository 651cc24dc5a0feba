import SceneGpu.Proofs.Glsl.Edit
/-!
Adjusting a text twice. The second pass changes nothing exactly if the first one leaves only clauses
that are kept. It need not: a clause that stands in the head of another one can end that head, or
make it an input or output, until the first pass takes it away.
-/
namespace SceneGpu.Glsl

/-- Opening parentheses, and letters that `set` and `binding` have but `layout(std140)` has not. -/
def weight (s : List Char) : Nat := s.countP fun c => c ∈ ['(', 'e', 'b']

theorem weight_append (s t : List Char) : weight (s ++ t) = weight s + weight t :=
  List.countP_append

theorem weight_word {w : List Char} {ps : List Piece} (mem : .word w ∈ ps) :
    weight w ≤ weight (textOf ps) := by
  obtain ⟨front, back, rfl⟩ := List.append_of_mem mem
  rw [textOf_append, textOf_cons, weight_append, weight_append]
  have middle : weight (Piece.word w).text = weight w := rfl
  omega

theorem weight_dropWhile (q : Char → Bool) (s : List Char) : weight (s.dropWhile q) ≤ weight s :=
  (List.dropWhile_suffix q).sublist.countP_le

theorem mem_of_mem_keysOf {expected : Bool} {ps : List Piece} {w : List Char}
    (mem : w ∈ keysOf expected ps) : .word w ∈ ps := by
  fun_induction keysOf expected ps with
  | case1 => cases mem
  | case3 v rest ih =>
    rcases List.mem_cons.mp mem with rfl | mem
    · exact List.mem_cons_self
    · exact List.mem_cons_of_mem _ (ih mem)
  | _ =>
    rename_i ih
    exact List.mem_cons_of_mem _ (ih mem)

theorem weight_clause {c : Clause} {after : List Piece} (spans : c.Spans after) :
    1 ≤ weight c.text ∧ (Bound c.keys → 2 ≤ weight c.text) := by
  obtain ⟨gap, body, _, _, whole, keys, _⟩ := spans
  have text : weight c.text = weight (textOf gap) + 1 + weight (textOf body) := by
    have layout : weight (Piece.word layoutWord).text = 0 := by decide
    have opens : weight (Piece.mark '(').text = 1 := by decide
    have closes : weight (Piece.mark ')').text = 0 := by decide
    have nothing : weight (textOf []) = 0 := rfl
    rw [Clause.text, whole]
    simp only [textOf_cons, textOf_append, weight_append, layout, opens, closes, nothing]
    omega
  refine ⟨by omega, ?_⟩
  intro bound
  have key : ∃ w ∈ c.keys, 1 ≤ weight w := by
    rcases bound with set | binding
    · exact ⟨_, set, by decide⟩
    · exact ⟨_, binding, by decide⟩
  obtain ⟨w, mem, heavy⟩ := key
  rw [keys, ← keysOf_eq] at mem
  have inside := weight_word (mem_of_mem_keysOf mem)
  omega

theorem weight_editedText {q : Passage} {after : List Piece} (spans : q.clause.Spans after) :
    weight q.editedText ≤ weight q.text ∧
      (weight q.editedText = weight q.text → q.clause.fate = .keep) := by
  have clause := weight_clause spans
  have whole : weight q.text = weight q.clause.text + weight (textOf q.gap) := weight_append _ _
  have ruled := ruled_classify q.clause.head q.clause.keys
  change Ruled _ _ q.clause.fate at ruled
  unfold Passage.editedText
  cases fate : q.clause.fate with
  | keep => exact ⟨Nat.le_refl _, fun _ => rfl⟩
  | remove =>
    have drop := weight_dropWhile Text.isBlank (textOf q.gap)
    dsimp only
    refine ⟨by omega, ?_⟩
    intro same
    omega
  | replace =>
    rw [fate] at ruled
    cases ruled with
    | bound _ _ bound =>
      have heavy := clause.2 bound
      have light : weight sharedLayout.toList = 1 := by decide
      dsimp only
      rw [weight_append, light]
      refine ⟨by omega, ?_⟩
      intro same
      omega

theorem kept_of_weight {passages : List Passage}
    (spans : ∀ q ∈ passages, ∃ after, q.clause.Spans after) :
    weight (passages.flatMap Passage.editedText) ≤ weight (passages.flatMap Passage.text) ∧
      (weight (passages.flatMap Passage.editedText) = weight (passages.flatMap Passage.text) →
        ∀ q ∈ passages, q.clause.fate = .keep) := by
  induction passages with
  | nil =>
    refine ⟨Nat.le_refl _, ?_⟩
    intro _ q mem
    cases mem
  | cons q rest ih =>
    obtain ⟨after, here⟩ := spans q List.mem_cons_self
    obtain ⟨first, firstKept⟩ := weight_editedText here
    obtain ⟨others, othersKept⟩ := ih fun r mem => spans r (List.mem_cons_of_mem q mem)
    rw [List.flatMap_cons, List.flatMap_cons, weight_append, weight_append]
    refine ⟨by omega, ?_⟩
    intro same r mem
    rcases List.mem_cons.mp mem with rfl | mem
    · exact firstKept (by omega)
    · exact othersKept (by omega) r mem

section Once

variable {source : List Char} {lead : List Piece} {passages : List Passage}
  (found : Found (pieces source) lead passages)
include found

theorem stripLayout_of_kept (kept : ∀ q ∈ passages, q.clause.fate = .keep) :
    stripLayout source = source := by
  have same : passages.flatMap Passage.editedText = passages.flatMap Passage.text := by
    have each : ∀ q ∈ passages, q.editedText = q.text := by
      intro q mem
      rw [Passage.editedText, kept q mem]
      rfl
    rw [List.flatMap_def, List.map_congr_left each, ← List.flatMap_def]
  rw [text_stripLayout found, same, ← text_found found]

theorem kept_of_stripLayout (same : stripLayout source = source) :
    ∀ q ∈ passages, q.clause.fate = .keep := by
  refine (kept_of_weight found.spans).2 ?_
  have weights : weight (stripLayout source) = weight source := by rw [same]
  have before : weight source = weight (textOf lead) + weight (passages.flatMap Passage.text) := by
    rw [← weight_append, ← text_found found]
  rw [text_stripLayout found, weight_append, before] at weights
  omega

end Once

theorem stripLayout_eq_self_iff {source : List Char} :
    stripLayout source = source ↔ ∀ c ∈ clauses source, c.fate = .keep := by
  obtain ⟨lead, passages, found⟩ := exists_found (pieces source)
  rw [clauses_eq found]
  constructor
  · intro same c mem
    obtain ⟨q, here, rfl⟩ := List.mem_map.mp mem
    exact kept_of_stripLayout found same q here
  · intro kept
    refine stripLayout_of_kept found ?_
    intro q mem
    exact kept q.clause (List.mem_map.mpr ⟨q, mem, rfl⟩)

def Piece.Stops (p : Piece) : Prop := p = .mark ';' ∨ p = .mark '\x7b'

def Piece.Quiet (p : Piece) : Prop := ¬ p.Stops ∧ p ≠ .word "in".toList ∧ p ≠ .word "out".toList

instance (p : Piece) : Decidable p.Stops := inferInstanceAs (Decidable (_ ∨ _))

instance (p : Piece) : Decidable p.Quiet := inferInstanceAs (Decidable (_ ∧ _))

/-- Quiet tokens may be left out, and those of `layout(std140)` may be put in. -/
inductive Trimmed : List Piece → List Piece → Prop
  | nil : Trimmed [] []
  | same (p : Piece) {ts us : List Piece} (more : Trimmed ts us) : Trimmed (p :: ts) (p :: us)
  | drop {p : Piece} {ts us : List Piece} (quiet : p.Quiet) (more : Trimmed ts us) :
      Trimmed (p :: ts) us
  | add {p : Piece} {ts us : List Piece} (shared : p ∈ sharedPieces) (more : Trimmed ts us) :
      Trimmed ts (p :: us)

theorem Trimmed.keep (ps : List Piece) {ts us : List Piece} (more : Trimmed ts us) :
    Trimmed (ps ++ ts) (ps ++ us) := by
  induction ps with
  | nil => exact more
  | cons p rest ih => exact .same p ih

theorem Trimmed.leave {ps ts us : List Piece} (quiet : ∀ p ∈ ps, p.Quiet)
    (more : Trimmed ts us) : Trimmed (ps ++ ts) us := by
  induction ps with
  | nil => exact more
  | cons p rest ih =>
    refine .drop (quiet p List.mem_cons_self) (ih ?_)
    intro q mem
    exact quiet q (List.mem_cons_of_mem p mem)

theorem Trimmed.put {ps ts us : List Piece} (shared : ∀ p ∈ ps, p ∈ sharedPieces)
    (more : Trimmed ts us) : Trimmed ts (ps ++ us) := by
  induction ps with
  | nil => exact more
  | cons p rest ih =>
    refine .add (shared p List.mem_cons_self) (ih ?_)
    intro q mem
    exact shared q (List.mem_cons_of_mem p mem)

def Still (passages : List Passage) : Prop :=
  ∀ q ∈ passages, q.clause.fate ≠ .keep → ∀ p ∈ q.clause.pieces, p.Quiet

instance (passages : List Passage) : Decidable (Still passages) :=
  inferInstanceAs (Decidable (∀ q ∈ passages, _ → ∀ p ∈ q.clause.pieces, _))

theorem trimmed_edits (lead : List Piece) {passages : List Passage} (still : Still passages) :
    Trimmed (tokens (lead ++ passages.flatMap Passage.pieces))
      (tokens (lead ++ passages.flatMap Passage.edited)) := by
  rw [tokens_append, tokens_append]
  refine .keep (tokens lead) ?_
  induction passages with
  | nil => exact .nil
  | cons q rest ih =>
    have more := ih fun r mem => still r (List.mem_cons_of_mem q mem)
    rw [List.flatMap_cons, List.flatMap_cons, tokens_append, tokens_append, tokens_edited,
      Passage.pieces, tokens_append, List.append_assoc, Passage.editedTokens]
    have here := still q List.mem_cons_self
    cases fate : q.clause.fate with
    | keep =>
      dsimp only
      rw [List.append_assoc]
      exact (more.keep _).keep _
    | remove =>
      refine .leave ?_ (more.keep _)
      intro p mem
      exact here (by simp [fate]) p (List.mem_filter.mp mem).1
    | replace =>
      dsimp only
      rw [List.append_assoc]
      refine .leave ?_ (.put (fun p mem => mem) (more.keep _))
      intro p mem
      exact here (by simp [fate]) p (List.mem_filter.mp mem).1

theorem mem_headWords_cons {w : List Char} {p : Piece} {ts : List Piece} :
    w ∈ headWords (p :: ts) ↔ ¬ p.Stops ∧ (p = .word w ∨ w ∈ headWords ts) := by
  unfold headWords
  by_cases stops : p.Stops
  · rw [List.takeWhile_cons_of_neg]
    · simp [stops]
    · rcases stops with rfl | rfl <;> simp
  · have goes : p ≠ .mark ';' ∧ p ≠ .mark '\x7b' := not_or.mp stops
    rw [List.takeWhile_cons_of_pos (by simpa using goes)]
    cases p <;> simp [Piece.word?, stops, eq_comm]

theorem Trimmed.words {ts us : List Piece} (trimmed : Trimmed ts us) {w : List Char}
    (mem : w ∈ headWords us) : w ∈ headWords ts ∨ .word w ∈ sharedPieces := by
  induction trimmed with
  | nil => exact .inl mem
  | same p _ ih =>
    obtain ⟨goes, rfl | mem⟩ := mem_headWords_cons.mp mem
    · exact .inl (mem_headWords_cons.mpr ⟨goes, .inl rfl⟩)
    · rcases ih mem with mem | shared
      · exact .inl (mem_headWords_cons.mpr ⟨goes, .inr mem⟩)
      · exact .inr shared
  | drop quiet _ ih =>
    rcases ih mem with mem | shared
    · exact .inl (mem_headWords_cons.mpr ⟨quiet.1, .inr mem⟩)
    · exact .inr shared
  | add shared _ ih =>
    obtain ⟨_, rfl | mem⟩ := mem_headWords_cons.mp mem
    · exact .inr shared
    · exact ih mem

theorem Trimmed.directions {ts us : List Piece} (trimmed : Trimmed ts us) {w : List Char}
    (direction : w = "in".toList ∨ w = "out".toList) (mem : w ∈ headWords ts) :
    w ∈ headWords us := by
  induction trimmed with
  | nil => exact mem
  | same p _ ih =>
    obtain ⟨goes, rfl | mem⟩ := mem_headWords_cons.mp mem
    · exact mem_headWords_cons.mpr ⟨goes, .inl rfl⟩
    · exact mem_headWords_cons.mpr ⟨goes, .inr (ih mem)⟩
  | drop quiet _ ih =>
    obtain ⟨_, rfl | mem⟩ := mem_headWords_cons.mp mem
    · obtain ⟨_, notIn, notOut⟩ := quiet
      rcases direction with rfl | rfl
      · exact absurd rfl notIn
      · exact absurd rfl notOut
    · exact ih mem
  | @add p _ _ shared _ ih =>
    have goes : ¬ p.Stops := by
      rintro (rfl | rfl)
      · exact absurd shared (by decide)
      · exact absurd shared (by decide)
    exact mem_headWords_cons.mpr ⟨goes, .inr (ih mem)⟩

theorem Trimmed.directed {ts us : List Piece} (trimmed : Trimmed ts us)
    (directed : Directed (headWords ts)) : Directed (headWords us) := by
  rcases directed with mem | mem
  · exact .inl (trimmed.directions (.inl rfl) mem)
  · exact .inr (trimmed.directions (.inr rfl) mem)

theorem Trimmed.demoted {ts us : List Piece} (trimmed : Trimmed ts us)
    (demoted : Demoted (headWords us)) : Demoted (headWords ts) := by
  obtain ⟨w, mem, kind⟩ := demoted
  rcases trimmed.words mem with mem | shared
  · exact ⟨w, mem, kind⟩
  · exfalso
    have word : w = layoutWord ∨ w = "std140".toList := by simpa [sharedPieces] using shared
    rw [← isSamplerType_iff, ← isVectorType_iff] at kind
    rcases word with rfl | rfl
    · exact absurd kind (by decide)
    · exact absurd kind (by decide)

theorem Trimmed.kept {ts us : List Piece} {keys : List (List Char)} (trimmed : Trimmed ts us)
    (fate : classify (headWords ts) keys = .keep) : classify (headWords us) keys = .keep := by
  rcases kept_iff.mp fate with directed | ⟨plain, unbound⟩
  · exact kept_iff.mpr (.inl (trimmed.directed directed))
  · exact kept_iff.mpr (.inr ⟨fun demoted => plain (trimmed.demoted demoted), unbound⟩)

theorem Trimmed.replaced {ts us : List Piece} {keys : List (List Char)} (trimmed : Trimmed ts us)
    (fate : classify (headWords ts) keys = .replace) :
    classify (headWords us) ["std140".toList] = .keep := by
  cases ruled_iff.mpr fate with
  | bound _ plain _ =>
    have unbound : ¬ Bound ["std140".toList] := by
      rintro (mem | mem)
      · exact absurd mem (by decide)
      · exact absurd mem (by decide)
    exact kept_iff.mpr (.inr ⟨fun demoted => plain (trimmed.demoted demoted), unbound⟩)

/-- No clause that is removed has the word `layout` as the token before it. -/
def Loose (lead : List Piece) (passages : List Passage) : Prop :=
  ∀ r ∈ ahead lead passages, r.2.clause.fate = .remove →
    (tokens r.1).getLast? ≠ some (.word layoutWord)

instance (lead : List Piece) (passages : List Passage) : Decidable (Loose lead passages) :=
  inferInstanceAs (Decidable (∀ r ∈ ahead lead passages, _))

theorem ahead_append (start lead : List Piece) {passages : List Passage}
    {r : List Piece × Passage} (mem : r ∈ ahead lead passages) :
    (start ++ r.1, r.2) ∈ ahead (start ++ lead) passages := by
  induction passages generalizing lead with
  | nil => cases mem
  | cons q rest ih =>
    rcases List.mem_cons.mp mem with rfl | mem
    · exact List.mem_cons_self
    · refine List.mem_cons_of_mem _ ?_
      rw [List.append_assoc]
      exact ih (lead ++ q.pieces) mem

theorem getLast?_tokens {p : Piece} {lead : List Piece} (last : (tokens lead).getLast? = some p)
    (start : List Piece) : (tokens (start ++ lead)).getLast? = some p := by
  rw [tokens_append, List.getLast?_append, last]
  rfl

theorem Loose.behind (start : List Piece) {lead : List Piece} {passages : List Passage}
    (loose : Loose (start ++ lead) passages) : Loose lead passages := by
  intro r mem remove last
  exact loose _ (ahead_append start lead mem) remove (getLast?_tokens last start)

theorem not_opens_edits {p : Piece} {lead : List Piece} {passages : List Passage}
    (spans : ∀ q ∈ passages, ∃ after, q.clause.Spans after)
    (parted : ∀ q rest, passages = q :: rest → q.clause.fate = .remove →
      tokens (p :: lead) = [.word layoutWord] →
      (tokens q.gap ++ rest.flatMap Passage.editedTokens).head? ≠ some (.mark '('))
    (other : ∀ inside, ¬ Opens (p :: (lead ++ passages.flatMap Passage.pieces)) inside) :
    ∀ inside, ¬ Opens (p :: (lead ++ passages.flatMap Passage.edited)) inside := by
  intro inside here
  obtain ⟨rfl, head⟩ := exists_opens_iff.mp ⟨inside, here⟩
  have before : (tokens (lead ++ passages.flatMap Passage.pieces)).head? ≠ some (.mark '(') := by
    intro head
    obtain ⟨inside, here⟩ := exists_opens_iff.mpr ⟨rfl, head⟩
    exact other inside here
  rw [tokens_edits] at head
  rw [tokens_append] at before
  cases first : tokens lead with
  | cons t more =>
    rw [first] at head before
    exact before head
  | nil =>
    rw [first] at head
    cases passages with
    | nil => cases head
    | cons q rest =>
      have behind := parted q rest rfl
      rw [tokens_word, first] at behind
      obtain ⟨_, _, _, _, _, whole, _⟩ := spans q List.mem_cons_self
      rw [List.nil_append, List.flatMap_cons, Passage.editedTokens, whole] at head
      cases eq : q.clause.fate with
      | keep => simp [eq] at head
      | remove =>
        rw [eq] at head
        exact behind eq rfl head
      | replace => simp [eq, sharedPieces] at head

theorem Found.dropGap {gap back lead : List Piece} {passages : List Passage}
    (found : Found (gap ++ back) lead passages) :
    ∃ lead', Found (Glsl.dropBlank gap ++ back) lead' passages := by
  cases gap with
  | nil => exact ⟨lead, found⟩
  | cons p more =>
    cases p with
    | blank run => exact ⟨_, found.dropBlank⟩
    | _ => exact ⟨lead, found⟩

theorem Clause.Spans.kept {c : Clause} {after next : List Piece} (spans : c.Spans after)
    (trimmed : Trimmed (tokens after) (tokens next)) (fate : c.fate = .keep) :
    ∃ c' : Clause, c'.pieces = c.pieces ∧ c'.Spans next ∧ c'.fate = .keep := by
  obtain ⟨gap, body, silent, balanced, whole, keys, head⟩ := spans
  refine ⟨⟨c.pieces, c.keys, declaredWords next⟩, rfl, ?_, ?_⟩
  · exact ⟨gap, body, silent, balanced, whole, keys, rfl⟩
  · rw [Clause.fate, head] at fate
    exact trimmed.kept fate

theorem spans_shared (next : List Piece) :
    (⟨sharedPieces, ["std140".toList], declaredWords next⟩ : Clause).Spans next := by
  have balanced : Balanced [.word "std140".toList] :=
    (level_other (by simp) (by simp)).mpr level_nil
  have keys : ["std140".toList] = leadingWords [.word "std140".toList] := by decide
  exact ⟨[], [.word "std140".toList], List.forall_mem_nil _, balanced, rfl, keys, rfl⟩

theorem Clause.Spans.replaced {c : Clause} {after next : List Piece} (spans : c.Spans after)
    (trimmed : Trimmed (tokens after) (tokens next)) (fate : c.fate = .replace) :
    ∃ c' : Clause, c'.pieces = sharedPieces ∧ c'.Spans next ∧ c'.fate = .keep := by
  obtain ⟨_, _, _, _, _, _, head⟩ := spans
  refine ⟨_, rfl, spans_shared next, ?_⟩
  rw [Clause.fate, head] at fate
  exact trimmed.replaced fate

def Settled (ps : List Piece) : Prop :=
  ∃ lead passages, Found ps lead passages ∧ ∀ q ∈ passages, q.clause.fate = .keep

theorem settled_clause {c : Clause} {gap next : List Piece} {passages : List Passage}
    (spans : c.Spans next) (kept : c.fate = .keep) (found : Found next gap passages)
    (others : ∀ q ∈ passages, q.clause.fate = .keep) : Settled (c.pieces ++ next) :=
  ⟨[], ⟨c, gap⟩ :: passages, .clause spans found, List.forall_mem_cons.mpr ⟨kept, others⟩⟩

theorem Found.settled {ps lead : List Piece} {passages : List Passage}
    (found : Found ps lead passages) (loose : Loose lead passages) (still : Still passages) :
    Settled (lead ++ passages.flatMap Passage.edited) := by
  induction found with
  | nil =>
    refine ⟨[], [], .nil, ?_⟩
    intro q mem
    cases mem
  | @plain p rest lead passages other more ih =>
    obtain ⟨lead', passages', found, kept⟩ := ih (Loose.behind [p] loose) still
    rw [more.pieces_eq] at other
    have parted : ∀ q rest, passages = q :: rest → q.clause.fate = .remove →
        tokens (p :: lead) = [.word layoutWord] →
        (tokens q.gap ++ rest.flatMap Passage.editedTokens).head? ≠ some (.mark '(') := by
      intro q rest whole remove last
      subst whole
      have notLast := loose _ List.mem_cons_self remove
      rw [last] at notLast
      exact absurd rfl notLast
    exact ⟨p :: lead', passages', .plain (not_opens_edits more.spans parted other) found, kept⟩
  | @unclosed ps inside opens never =>
    refine ⟨ps, [], ?_, ?_⟩
    · rw [List.flatMap_nil, List.append_nil]
      exact .unclosed opens never
    · intro q mem
      cases mem
  | @clause c after lead passages spans more ih =>
    have behind : Loose lead passages := by
      refine Loose.behind c.pieces ?_
      intro r mem
      exact loose r (List.mem_cons_of_mem _ mem)
    have rest : Still passages := fun q mem => still q (List.mem_cons_of_mem _ mem)
    obtain ⟨lead', passages', found, others⟩ := ih behind rest
    have trimmed := trimmed_edits lead rest
    rw [← more.pieces_eq] at trimmed
    rw [List.nil_append, List.flatMap_cons, Passage.edited]
    cases fate : c.fate with
    | keep =>
      obtain ⟨c', same, spans', kept⟩ := spans.kept trimmed fate
      dsimp only
      rw [List.append_assoc, ← same]
      exact settled_clause spans' kept found others
    | remove =>
      obtain ⟨lead', found⟩ := found.dropGap
      exact ⟨lead', passages', found, others⟩
    | replace =>
      obtain ⟨c', same, spans', kept⟩ := spans.replaced trimmed fate
      dsimp only
      rw [List.append_assoc, ← same]
      exact settled_clause spans' kept found others

theorem stripLayoutText_twice_iff (source : String) :
    stripLayoutText (stripLayoutText source) = stripLayoutText source ↔
      stripLayout (stripLayout source.toList) = stripLayout source.toList := by
  unfold stripLayoutText
  rw [String.toList_ofList, ← String.toList_inj, String.toList_ofList, String.toList_ofList]

/-- A second pass changes nothing exactly if the first one leaves only clauses that are kept. It does
so where no clause that it edits ends a head or makes it an input or output, and none that it removes
stands right behind a slash or has the word `layout` before it. -/
theorem stripLayoutText_twice (source : String) :
    (stripLayoutText (stripLayoutText source) = stripLayoutText source ↔
      ∀ c ∈ clauses (stripLayoutText source).toList, c.fate = .keep) ∧
    ∀ lead passages, Found (pieces source.toList) lead passages →
      Apart lead passages → Loose lead passages → Still passages →
        stripLayoutText (stripLayoutText source) = stripLayoutText source := by
  have once : (stripLayoutText source).toList = stripLayout source.toList := String.toList_ofList
  rw [stripLayoutText_twice_iff, once]
  refine ⟨stripLayout_eq_self_iff, ?_⟩
  intro lead passages found apart loose still
  obtain ⟨lead', passages', settled, kept⟩ := found.settled loose still
  rw [← pieces_stripLayout found apart] at settled
  exact stripLayout_of_kept settled kept

/-- What is removed first was an input to the clause in front of it. -/
theorem stripLayoutText_not_idempotent :
    ¬ ∀ source, stripLayoutText (stripLayoutText source) = stripLayoutText source := by
  intro idempotent
  have once : stripLayoutText "layout(set = 0) layout(in) uniform vec4 tint;" =
      "layout(set = 0) uniform vec4 tint;" := by decide +kernel
  have twice : stripLayoutText "layout(set = 0) uniform vec4 tint;" = "uniform vec4 tint;" := by
    decide +kernel
  have same := idempotent "layout(set = 0) layout(in) uniform vec4 tint;"
  rw [once, twice] at same
  exact absurd same (by decide)

theorem stripLayoutText_twice_stacked :
    let source := "layout(set = 0) layout(set = 1) uniform sampler2D t; layout(set = 2) uniform B b;"
    ∃ lead passages, Found (pieces source.toList) lead passages ∧
      Apart lead passages ∧ Loose lead passages ∧ Still passages ∧
      stripLayoutText source = "uniform sampler2D t; layout(std140) uniform B b;" ∧
      stripLayoutText (stripLayoutText source) = stripLayoutText source := by
  intro source
  have found := found_gather (pieces source.toList)
  have apart : Apart (gather (segments (pieces source.toList))).1
      (gather (segments (pieces source.toList))).2 := by decide +kernel
  have loose : Loose (gather (segments (pieces source.toList))).1
      (gather (segments (pieces source.toList))).2 := by decide +kernel
  have still : Still (gather (segments (pieces source.toList))).2 := by decide +kernel
  have twice := (stripLayoutText_twice source).2 _ _ found apart loose still
  exact ⟨_, _, found, apart, loose, still, by decide +kernel, twice⟩

end SceneGpu.Glsl
