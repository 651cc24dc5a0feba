import SceneGpu.Proofs.Glsl.Edit
/-!
Clauses in front of interface blocks. The rules look at every word of a head, so the name of a block is
taken for a type as well: where `sampler` occurs in it, the block loses its clause.
-/
namespace SceneGpu.Glsl

/-- The words that GLSL 4.60 keeps for itself: its keywords and the names of its types. -/
def reservedWords : List String :=
  ["const", "uniform", "buffer", "shared", "attribute", "varying", "coherent", "volatile", "restrict",
    "readonly", "writeonly", "layout", "centroid", "flat", "smooth", "noperspective", "patch", "sample",
    "invariant", "precise", "break", "continue", "do", "for", "while", "switch", "case", "default", "if",
    "else", "subroutine", "in", "out", "inout", "true", "false", "discard", "return", "struct", "lowp",
    "mediump", "highp", "precision", "void", "bool", "int", "uint", "float", "double", "atomic_uint"] ++
  ["vec", "ivec", "uvec", "bvec", "dvec", "mat", "dmat"].flatMap (fun kind =>
    ["2", "3", "4"].map (kind ++ ·)) ++
  ["mat", "dmat"].flatMap (fun kind => ["2", "3", "4"].flatMap fun columns =>
    ["2", "3", "4"].map (kind ++ columns ++ "x" ++ ·)) ++
  ["sampler", "isampler", "usampler", "image", "iimage", "uimage"].flatMap (fun kind =>
    ["1D", "1DArray", "2D", "2DArray", "2DRect", "2DMS", "2DMSArray", "3D", "Cube", "CubeArray",
      "Buffer"].map (kind ++ ·)) ++
  ["1D", "1DArray", "2D", "2DArray", "2DRect", "Cube", "CubeArray"].map ("sampler" ++ · ++ "Shadow")

def storageWords : List (List Char) := ["uniform".toList, "buffer".toList]

def memoryWords : List (List Char) :=
  ["coherent", "volatile", "restrict", "readonly", "writeonly"].map String.toList

/-- The pieces behind a clause are the start of an interface block of this name: a storage word, perhaps
memory qualifiers around it, the name and the opening brace. -/
def StartsBlock (after : List Piece) (name : List Char) : Prop :=
  ∃ before storage between rest, storage ∈ storageWords ∧ (∀ w ∈ before ++ between, w ∈ memoryWords) ∧
    tokens after =
      (before ++ storage :: (between ++ [name])).map .word ++ .mark '\x7b' :: rest

def Nameable (name : List Char) : Prop :=
  name ≠ "in".toList ∧ name ≠ "out".toList ∧ ¬ VectorWord name

theorem nameable_of_unreserved {name : String} (free : name ∉ reservedWords) :
    Nameable name.toList := by
  have directed : "in" ∈ reservedWords := by decide +kernel
  have directed' : "out" ∈ reservedWords := by decide +kernel
  -- told by `all`, since a decision on all characters would go through every one there is
  have vectors : (["vec2", "vec3", "vec4"].all fun size => decide (size ∈ reservedWords) &&
      ['i', 'u', 'b', 'd'].all fun kind =>
        decide (String.ofList (kind :: size.toList) ∈ reservedWords)) = true := by decide +kernel
  simp only [List.all_eq_true, Bool.and_eq_true, decide_eq_true_eq] at vectors
  refine ⟨?_, ?_, ?_⟩
  · intro eq
    exact free (String.toList_inj.mp eq ▸ directed)
  · intro eq
    exact free (String.toList_inj.mp eq ▸ directed')
  · rintro ⟨size, mem, eq | ⟨kind, isKind, eq⟩⟩
    · exact free (String.toList_inj.mp eq ▸ (vectors size mem).1)
    · have same : String.ofList (kind :: size.toList) = name := by rw [← eq, String.ofList_toList]
      exact free (same ▸ (vectors size mem).2 kind isKind)

theorem headWords_words (ws : List (List Char)) (rest : List Piece) :
    headWords (ws.map .word ++ .mark '\x7b' :: rest) = ws := by
  induction ws with
  | nil => simp [headWords]
  | cons w ws ih =>
    have first : (Piece.word w).word? = some w := rfl
    unfold headWords at ih ⊢
    rw [List.map_cons, List.cons_append, List.takeWhile_cons_of_pos (by simp),
      List.filterMap_cons_some first, ih]

theorem storage_or_memory_plain : ∀ w ∈ storageWords ++ memoryWords,
    w ≠ "in".toList ∧ w ≠ "out".toList ∧ isSamplerType w = false ∧ isVectorType w = false := by
  decide

namespace StartsBlock

variable {after : List Piece} {name : List Char}

theorem declaredWords_eq (block : StartsBlock after name) :
    ∃ front, declaredWords after = front ++ [name] ∧ ∀ w ∈ front, w ∈ storageWords ++ memoryWords := by
  obtain ⟨before, storage, between, rest, stored, memory, whole⟩ := block
  refine ⟨before ++ storage :: between, ?_, ?_⟩
  · rw [declaredWords, whole, headWords_words]
    simp
  · intro w mem
    rcases List.mem_append.mp mem with mem | mem
    · exact List.mem_append_right _ (memory w (List.mem_append_left _ mem))
    rcases List.mem_cons.mp mem with rfl | mem
    · exact List.mem_append_left _ stored
    · exact List.mem_append_right _ (memory w (List.mem_append_right _ mem))

theorem not_directed (block : StartsBlock after name) (nameable : Nameable name) :
    ¬ Directed (declaredWords after) := by
  obtain ⟨front, head, plain⟩ := block.declaredWords_eq
  rw [head]
  rintro (mem | mem)
  · rcases List.mem_append.mp mem with mem | mem
    · exact (storage_or_memory_plain _ (plain _ mem)).1 rfl
    · exact nameable.1 (List.mem_singleton.mp mem).symm
  · rcases List.mem_append.mp mem with mem | mem
    · exact (storage_or_memory_plain _ (plain _ mem)).2.1 rfl
    · exact nameable.2.1 (List.mem_singleton.mp mem).symm

theorem demoted_iff (block : StartsBlock after name) (nameable : Nameable name) :
    Demoted (declaredWords after) ↔ SamplerWord name := by
  obtain ⟨front, head, plain⟩ := block.declaredWords_eq
  rw [head]
  constructor
  · rintro ⟨w, mem, demotes⟩
    rcases List.mem_append.mp mem with mem | mem
    · obtain ⟨_, _, sampler, vector⟩ := storage_or_memory_plain w (plain w mem)
      rw [← isSamplerType_iff, ← isVectorType_iff, sampler, vector] at demotes
      exact absurd demotes (by decide)
    · obtain rfl := List.mem_singleton.mp mem
      exact demotes.resolve_right nameable.2.2
  · intro sampler
    exact ⟨name, List.mem_append_right front (List.mem_singleton_self name), .inl sampler⟩

end StartsBlock

theorem Found.spans_at {ps lead : List Piece} {front back : List Passage} {q : Passage}
    (found : Found ps lead (front ++ q :: back)) :
    q.clause.Spans (q.gap ++ back.flatMap Passage.pieces) := by
  generalize whole : front ++ q :: back = passages at found
  induction found generalizing front with
  | nil => simp at whole
  | plain _ _ ih => exact ih whole
  | unclosed _ _ => simp at whole
  | clause spans more ih =>
    cases front with
    | nil =>
      obtain ⟨rfl, rfl⟩ := List.cons.inj whole
      rwa [more.pieces_eq] at spans
    | cons r front => exact ih (List.cons.inj whole).2

/-- A clause that binds an interface block is replaced exactly if `sampler` does not occur in the name
of the block. Otherwise it is removed, and the blanks behind it as well. -/
theorem stripLayoutText_blocks (source : String) (lead : List Piece) (front : List Passage)
    (q : Passage) (back : List Passage) (name : List Char)
    (found : Found (pieces source.toList) lead (front ++ q :: back)) (bound : Bound q.clause.keys)
    (block : StartsBlock (q.gap ++ back.flatMap Passage.pieces) name) (nameable : Nameable name) :
    (q.clause.fate = .replace ↔ ¬ SamplerWord name) ∧
    (¬ SamplerWord name → (stripLayoutText source).toList =
      textOf lead ++ front.flatMap Passage.editedText ++
        (sharedLayout.toList ++ textOf q.gap) ++ back.flatMap Passage.editedText) ∧
    (SamplerWord name → (stripLayoutText source).toList =
      textOf lead ++ front.flatMap Passage.editedText ++
        (textOf q.gap).dropWhile Text.isBlank ++ back.flatMap Passage.editedText) := by
  obtain ⟨_, _, _, _, _, _, head⟩ := found.spans_at
  have other := block.not_directed nameable
  have demoted := block.demoted_iff nameable
  rw [← head] at other demoted
  have replaced (plain : ¬ SamplerWord name) : q.clause.fate = .replace :=
    ruled_iff.mp (.bound other (mt demoted.mp plain) bound)
  have removed (sampler : SamplerWord name) : q.clause.fate = .remove :=
    ruled_iff.mp (.demoted other (demoted.mpr sampler))
  have result : (stripLayoutText source).toList = textOf lead ++ front.flatMap Passage.editedText ++
      q.editedText ++ back.flatMap Passage.editedText := by
    have once : (stripLayoutText source).toList = stripLayout source.toList := String.toList_ofList
    rw [once, text_stripLayout found, List.flatMap_append, List.flatMap_cons]
    simp only [List.append_assoc]
  refine ⟨⟨?_, replaced⟩, ?_, ?_⟩
  · intro fate sampler
    rw [removed sampler] at fate
    cases fate
  · intro plain
    rw [result, Passage.editedText, replaced plain]
  · intro sampler
    rw [result, Passage.editedText, removed sampler]

/- The first clause of a source, and what stands behind it. -/
section First

variable (source : String)

def firstPassage : Passage := (gather (segments (pieces source.toList))).2.headD ⟨⟨[], [], []⟩, []⟩

def laterPassages : List Passage := (gather (segments (pieces source.toList))).2.tail

def piecesBehind : List Piece :=
  (firstPassage source).gap ++ (laterPassages source).flatMap Passage.pieces

theorem found_first (some_ : (gather (segments (pieces source.toList))).2 ≠ []) :
    Found (pieces source.toList) (gather (segments (pieces source.toList))).1
      ([] ++ firstPassage source :: laterPassages source) := by
  have found := found_gather (pieces source.toList)
  obtain ⟨q, rest, whole⟩ := List.exists_cons_of_ne_nil some_
  unfold firstPassage laterPassages
  rw [whole] at found ⊢
  exact found

end First

theorem stripLayoutText_blocks_qualified :
    let source := "layout(set = 0, binding = 1) readonly buffer Particles { vec4 p; } ps;"
    ∃ lead q back, Found (pieces source.toList) lead ([] ++ q :: back) ∧ Bound q.clause.keys ∧
      StartsBlock (q.gap ++ back.flatMap Passage.pieces) "Particles".toList ∧
      Nameable "Particles".toList ∧ (q.clause.fate = .replace ↔ ¬ SamplerWord "Particles".toList) ∧
      stripLayoutText source = "layout(std140) readonly buffer Particles { vec4 p; } ps;" := by
  intro source
  have found := found_first source (by decide +kernel)
  have bound : Bound (firstPassage source).clause.keys := by
    unfold Bound
    decide +kernel
  have block : StartsBlock (piecesBehind source) "Particles".toList := by
    refine ⟨["readonly".toList], "buffer".toList, [], (tokens (piecesBehind source)).drop 4, ?_⟩
    decide +kernel
  have nameable : Nameable "Particles".toList := nameable_of_unreserved (by decide +kernel)
  obtain ⟨fate, _⟩ := stripLayoutText_blocks source _ [] _ _ _ found bound block nameable
  exact ⟨_, _, _, found, bound, block, nameable, fate, by decide +kernel⟩

theorem stripLayoutText_block_demoted :
    ¬ ∀ (source : String) lead front q back (name : String),
      Found (pieces source.toList) lead (front ++ q :: back) → Bound q.clause.keys →
      StartsBlock (q.gap ++ back.flatMap Passage.pieces) name.toList → name ∉ reservedWords →
      (stripLayoutText source).toList = textOf lead ++ front.flatMap Passage.editedText ++
        (sharedLayout.toList ++ textOf q.gap) ++ back.flatMap Passage.editedText := by
  intro replaces
  let source := "layout(set = 0, binding = 1) uniform samplerParams { vec4 bias; } params;"
  have found := found_first source (by decide +kernel)
  have bound : Bound (firstPassage source).clause.keys := by
    unfold Bound
    decide +kernel
  have block : StartsBlock (piecesBehind source) "samplerParams".toList := by
    refine ⟨[], "uniform".toList, [], (tokens (piecesBehind source)).drop 3, ?_⟩
    decide +kernel
  have text := replaces source _ [] _ _ "samplerParams" found bound block (by decide +kernel)
  exact absurd text (by decide +kernel)

end SceneGpu.Glsl
