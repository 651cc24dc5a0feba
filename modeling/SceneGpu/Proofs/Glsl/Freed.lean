import SceneGpu.Proofs.Glsl.Twice
/-!
What an adjusted text still says about bindings. Where no clause stands in the head of another one, the
rules see each clause as it stands in the result, so only inputs and outputs keep a key that binds them
or a type that is demoted. One thing escapes: a word `layout` in front of a removed clause takes what
stood behind that for a clause of its own.
-/
namespace SceneGpu.Glsl

def Unnested (passages : List Passage) : Prop :=
  ∀ q ∈ passages.dropLast, ∃ p ∈ tokens q.gap, p.Stops

/-- No clause that is removed parts the word `layout` from an opening parenthesis. -/
def Parted (lead : List Piece) (passages : List Passage) : Prop :=
  ∀ r ∈ ahead lead passages, r.2.clause.fate = .remove →
    (tokens r.1).getLast? = some (.word layoutWord) → (tokens r.2.gap).head? ≠ some (.mark '(')

instance (passages : List Passage) : Decidable (Unnested passages) :=
  inferInstanceAs (Decidable (∀ q ∈ passages.dropLast, _))

instance (lead : List Piece) (passages : List Passage) : Decidable (Parted lead passages) :=
  inferInstanceAs (Decidable (∀ r ∈ ahead lead passages, _))

def Passage.left (q : Passage) : Option Clause :=
  match q.clause.fate with
  | .keep => some q.clause
  | .remove => none
  | .replace => some ⟨sharedPieces, ["std140".toList], q.clause.head⟩

theorem Unnested.behind {q : Passage} {passages : List Passage} (unnested : Unnested (q :: passages)) :
    Unnested passages := by
  intro r mem
  cases passages with
  | nil => cases mem
  | cons s rest => exact unnested r (List.mem_cons_of_mem q mem)

theorem Unnested.stops {q : Passage} {passages : List Passage} (unnested : Unnested (q :: passages)) :
    passages = [] ∨ ∃ p ∈ tokens q.gap, p.Stops := by
  cases passages with
  | nil => exact .inl rfl
  | cons s rest => exact .inr (unnested q List.mem_cons_self)

theorem Parted.behind (start : List Piece) {lead : List Piece} {passages : List Passage}
    (parted : Parted (start ++ lead) passages) : Parted lead passages := by
  intro r mem remove last
  exact parted (start ++ r.1, r.2) (ahead_append start lead mem) remove (getLast?_tokens last start)

theorem headWords_stops {ts : List Piece} (stops : ∃ p ∈ ts, p.Stops) (us : List Piece) :
    headWords (ts ++ us) = headWords ts := by
  obtain ⟨p, mem, stop⟩ := stops
  unfold headWords
  rw [List.takeWhile_append, if_neg]
  intro full
  have whole := (List.takeWhile_prefix _).eq_of_length full
  have goes := List.takeWhile_eq_self_iff.mp whole p mem
  rw [decide_eq_true_eq, ← not_or] at goes
  exact goes stop

theorem declaredWords_edits {lead : List Piece} {passages : List Passage}
    (ends : passages = [] ∨ ∃ p ∈ tokens lead, p.Stops) :
    declaredWords (lead ++ passages.flatMap Passage.edited) =
      declaredWords (lead ++ passages.flatMap Passage.pieces) := by
  rcases ends with rfl | stops
  · rfl
  · unfold declaredWords
    rw [tokens_append, tokens_append, headWords_stops stops, headWords_stops stops]

theorem Clause.Spans.of_declaredWords {c : Clause} {after next : List Piece} (spans : c.Spans after)
    (same : declaredWords next = declaredWords after) : c.Spans next := by
  obtain ⟨gap, body, silent, balanced, whole, keys, head⟩ := spans
  exact ⟨gap, body, silent, balanced, whole, keys, head.trans same.symm⟩

theorem head?_behind {q : Passage} {rest : List Passage} (unnested : Unnested (q :: rest))
    (apart : (tokens q.gap).head? ≠ some (.mark '(')) :
    (tokens q.gap ++ rest.flatMap Passage.editedTokens).head? ≠ some (.mark '(') := by
  rcases unnested.stops with rfl | ⟨p, mem, _⟩
  · rwa [List.flatMap_nil, List.append_nil]
  · obtain ⟨t, more, first⟩ := List.exists_cons_of_ne_nil (List.ne_nil_of_mem mem)
    rw [first] at apart ⊢
    exact apart

theorem Found.edits {ps lead : List Piece} {passages : List Passage} (found : Found ps lead passages)
    (unnested : Unnested passages) (parted : Parted lead passages) :
    ∃ lead' passages', Found (lead ++ passages.flatMap Passage.edited) lead' passages' ∧
      passages'.map Passage.clause = passages.filterMap Passage.left := by
  induction found with
  | nil => exact ⟨[], [], .nil, rfl⟩
  | @plain p rest lead passages other more ih =>
    obtain ⟨lead', passages', found, clauses⟩ := ih unnested (Parted.behind [p] parted)
    rw [more.pieces_eq] at other
    have alone : ∀ q rest, passages = q :: rest → q.clause.fate = .remove →
        tokens (p :: lead) = [.word layoutWord] →
        (tokens q.gap ++ rest.flatMap Passage.editedTokens).head? ≠ some (.mark '(') := by
      intro q rest whole remove last
      subst whole
      refine head?_behind unnested (parted _ List.mem_cons_self remove ?_)
      rw [last]
      rfl
    exact ⟨p :: lead', passages', .plain (not_opens_edits more.spans alone other) found, clauses⟩
  | @unclosed ps inside opens never =>
    refine ⟨ps, [], ?_, rfl⟩
    rw [List.flatMap_nil, List.append_nil]
    exact .unclosed opens never
  | @clause c after lead passages spans more ih =>
    have behind : Parted lead passages := by
      refine Parted.behind c.pieces ?_
      intro r mem
      exact parted r (List.mem_cons_of_mem _ mem)
    obtain ⟨lead', passages', found, clauses⟩ := ih unnested.behind behind
    have head := declaredWords_edits unnested.stops
    rw [← more.pieces_eq] at head
    rw [List.nil_append, List.flatMap_cons, Passage.edited, List.filterMap_cons, Passage.left]
    cases fate : c.fate with
    | keep =>
      dsimp only
      rw [List.append_assoc]
      exact ⟨[], _, .clause (spans.of_declaredWords head) found, by rw [List.map_cons, clauses]⟩
    | remove =>
      obtain ⟨lead', found⟩ := found.dropGap
      exact ⟨lead', passages', found, clauses⟩
    | replace =>
      have same : c.head = declaredWords (lead ++ passages.flatMap Passage.edited) := by
        obtain ⟨_, _, _, _, _, _, was⟩ := spans
        exact was.trans head.symm
      dsimp only
      rw [List.append_assoc, same]
      exact ⟨[], _, .clause (spans_shared _) found, by rw [List.map_cons, clauses]⟩

def Clause.Free (c : Clause) : Prop := Directed c.head ∨ ¬ Bound c.keys ∧ ¬ Demoted c.head

theorem Passage.left_free {q : Passage} {c : Clause} (left : q.left = some c) : c.Free := by
  unfold Passage.left at left
  cases fate : q.clause.fate with
  | keep =>
    rw [fate] at left
    cases left
    rcases kept_iff.mp fate with directed | ⟨plain, unbound⟩
    · exact .inl directed
    · exact .inr ⟨unbound, plain⟩
  | remove =>
    rw [fate] at left
    cases left
  | replace =>
    rw [fate] at left
    cases left
    cases ruled_iff.mpr fate with
    | bound _ plain _ =>
      have unbound : ¬ Bound ["std140".toList] := by
        rintro (mem | mem)
        · exact absurd mem (by decide)
        · exact absurd mem (by decide)
      exact .inr ⟨unbound, plain⟩

/-- In an adjusted text each clause belongs to an input or output, or neither binds anything nor
stands before a type that is demoted. -/
theorem stripLayoutText_frees (source : String) (lead : List Piece) (passages : List Passage)
    (found : Found (pieces source.toList) lead passages) (apart : Apart lead passages)
    (unnested : Unnested passages) (parted : Parted lead passages) :
    clauses (stripLayoutText source).toList = passages.filterMap Passage.left ∧
      ∀ c ∈ clauses (stripLayoutText source).toList, c.Free := by
  have once : (stripLayoutText source).toList = stripLayout source.toList := String.toList_ofList
  obtain ⟨lead', passages', edited, left⟩ := found.edits unnested parted
  rw [← pieces_stripLayout found apart] at edited
  have eq : clauses (stripLayoutText source).toList = passages.filterMap Passage.left := by
    rw [once, clauses_eq edited, left]
  refine ⟨eq, ?_⟩
  intro c mem
  rw [eq] at mem
  obtain ⟨q, _, here⟩ := List.mem_filterMap.mp mem
  exact Passage.left_free here

theorem stripLayoutText_frees_three :
    let source := "layout(set = 0) uniform sampler2D t; layout(set = 1) uniform B b; " ++
      "layout(location = 0) in vec3 p;"
    ∃ lead passages, Found (pieces source.toList) lead passages ∧
      Apart lead passages ∧ Unnested passages ∧ Parted lead passages ∧
      (clauses (stripLayoutText source).toList).map Clause.keys =
        [["std140".toList], ["location".toList]] ∧
      ∀ c ∈ clauses (stripLayoutText source).toList, c.Free := by
  intro source
  have found := found_gather (pieces source.toList)
  have apart : Apart (gather (segments (pieces source.toList))).1
      (gather (segments (pieces source.toList))).2 := by decide +kernel
  have unnested : Unnested (gather (segments (pieces source.toList))).2 := by decide +kernel
  have parted : Parted (gather (segments (pieces source.toList))).1
      (gather (segments (pieces source.toList))).2 := by decide +kernel
  obtain ⟨_, free⟩ := stripLayoutText_frees source _ _ found apart unnested parted
  exact ⟨_, _, found, apart, unnested, parted, by decide +kernel, free⟩

/-- Behind the word that is left in front of a removed clause a new clause starts. -/
theorem stripLayoutText_not_free :
    ¬ ∀ source lead passages, Found (pieces source.toList) lead passages → Apart lead passages →
      Unnested passages → ∀ c ∈ clauses (stripLayoutText source).toList, c.Free := by
  intro frees
  let source := "layout layout(set = 0) (binding = 1) uniform sampler2D t;"
  have free := frees source _ _ (found_gather (pieces source.toList)) (by decide +kernel)
    (by decide +kernel)
  have left : (clauses (stripLayoutText source).toList).map (fun c => (c.keys, c.head)) =
      [(["binding".toList], ["uniform".toList, "sampler2D".toList, "t".toList])] := by
    decide +kernel
  obtain ⟨c, mem, eq⟩ := List.mem_map.mp (left ▸ List.mem_singleton_self _)
  obtain ⟨keys, head⟩ := Prod.mk.inj eq
  rcases free c mem with directed | ⟨unbound, _⟩
  · rw [head] at directed
    rcases directed with mem | mem
    · exact absurd mem (by decide)
    · exact absurd mem (by decide)
  · apply unbound
    rw [keys]
    exact .inr (List.mem_singleton_self _)

end SceneGpu.Glsl
