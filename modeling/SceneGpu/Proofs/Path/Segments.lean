import SceneGpu.Path
/-!
Cutting a byte string at its slashes and putting it together again. The steps of a path are the
segments of its bytes less the idle ones.
-/
namespace SceneGpu.Path

theorem split_ne_nil (bytes : List UInt8) : split bytes ≠ [] := by
  cases bytes with
  | nil => simp [split]
  | cons b rest =>
    simp only [split]
    split
    · simp
    · split <;> simp

theorem split_cons_of_ne {b : UInt8} (ne : b ≠ slash) (rest : List UInt8) :
    ∃ s ss, split rest = s :: ss ∧ split (b :: rest) = (b :: s) :: ss := by
  cases eq : split rest with
  | nil => exact absurd eq (split_ne_nil rest)
  | cons s ss => exact ⟨s, ss, rfl, by simp [split, ne, eq]⟩

theorem split_append_slash (front back : List UInt8) :
    split (front ++ slash :: back) = split front ++ split back := by
  induction front with
  | nil => simp [split]
  | cons b rest ih =>
    by_cases sep : b = slash
    · simp [split, sep, ih]
    · obtain ⟨s, ss, eq, eq'⟩ := split_cons_of_ne sep rest
      rw [List.cons_append, eq']
      simp [split, sep, ih, eq]

theorem split_plain {s : List UInt8} (plain : slash ∉ s) : split s = [s] := by
  induction s with
  | nil => rfl
  | cons b rest ih =>
    simp only [List.mem_cons, not_or] at plain
    simp [split, Ne.symm plain.1, ih plain.2]

theorem slash_notMem_of_mem_split {bytes s : List UInt8} (mem : s ∈ split bytes) : slash ∉ s := by
  induction bytes generalizing s with
  | nil => simp [split] at mem; simp [mem]
  | cons b rest ih =>
    by_cases sep : b = slash
    · simp only [split, sep, ↓reduceIte, List.mem_cons] at mem
      rcases mem with rfl | later
      · simp
      · exact ih later
    · obtain ⟨first, ss, eq, eq'⟩ := split_cons_of_ne sep rest
      rw [eq', List.mem_cons] at mem
      rcases mem with rfl | later
      · simp [Ne.symm sep, ih (s := first) (by simp [eq])]
      · exact ih (by simp [eq, later])

theorem unsplit_cons_cons (s t : List UInt8) (rest : List (List UInt8)) :
    unsplit (s :: t :: rest) = s ++ slash :: unsplit (t :: rest) := by
  simp [unsplit, List.intercalate]

theorem split_unsplit {segments : List (List UInt8)} (filled : segments ≠ [])
    (plain : ∀ s ∈ segments, slash ∉ s) : split (unsplit segments) = segments := by
  induction segments with
  | nil => contradiction
  | cons s rest ih =>
    cases rest with
    | nil => simpa [unsplit] using split_plain (plain s (by simp))
    | cons t rest =>
      rw [unsplit_cons_cons, split_append_slash, split_plain (plain s (by simp)),
        ih (by simp) fun r mem => plain r (by simp [mem])]
      rfl

def busy (segments : List (List UInt8)) : List (List UInt8) := segments.filter (!isIdle ·)

theorem busy_append (front back : List (List UInt8)) : busy (front ++ back) = busy front ++ busy back :=
  List.filter_append front back

theorem busy_cons_idle {s : List UInt8} (idle : isIdle s) (rest : List (List UInt8)) :
    busy (s :: rest) = busy rest := by
  simp [busy, idle]

theorem busy_split_unsplit {segments : List (List UInt8)} (plain : ∀ s ∈ segments, slash ∉ s) :
    busy (split (unsplit segments)) = busy segments := by
  cases segments with
  | nil => rfl
  | cons s rest => rw [split_unsplit (by simp) plain]

theorem split_of_startsHere {p : Path} (here : p.startsHere) :
    ∃ rest ss, p.bytes = dot :: rest ∧ split rest = [] :: ss ∧ split p.bytes = [dot] :: ss := by
  simp only [startsHere, decide_eq_true_eq] at here
  cases bytes : p.bytes with
  | nil => simp [bytes, split] at here
  | cons b rest =>
    rw [bytes] at here
    by_cases sep : b = slash
    · simp [split, sep] at here
    · obtain ⟨s, ss, eq, eq'⟩ := split_cons_of_ne sep rest
      rw [eq'] at here ⊢
      obtain ⟨rfl, rfl⟩ : b = dot ∧ s = [] := by simpa using here
      exact ⟨rest, ss, rfl, eq, rfl⟩

theorem steps_eq_busy (p : Path) : p.steps = busy (split p.bytes) := by
  change busy (split (p.bytes.drop p.head.length)) = _
  unfold head
  split
  · rename_i absolute
    cases bytes : p.bytes with
    | nil => simp [isAbsolute, bytes] at absolute
    | cons b rest =>
      obtain rfl : b = slash := by simpa [isAbsolute, bytes] using absolute
      simp [split, busy, isIdle]
  · split
    · rename_i here
      obtain ⟨rest, ss, bytes, eq, eq'⟩ := split_of_startsHere here
      rw [eq', bytes]
      simp [eq, busy, isIdle]
    · rfl

end SceneGpu.Path
