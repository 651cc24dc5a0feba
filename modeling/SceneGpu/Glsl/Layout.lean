import SceneGpu.Glsl.Piece
import SceneGpu.Text.Basic
/-!
Layout clauses in desktop shader source. Without descriptor sets, `layout(set = …, binding = …)` is
rejected, so each clause is kept, removed or replaced:

1. a declaration with `in` or `out` keeps its clause;
2. a sampler or vector declaration loses it;
3. a clause with a `set` or `binding` key becomes `layout(std140)`;
4. any other clause is kept.
-/
namespace SceneGpu.Glsl

inductive Fate where
  | keep
  | remove
  | replace
deriving DecidableEq, Repr

def sharedLayout : String := "layout(std140)"

def isVectorType (name : List Char) : Bool :=
  let plain := fun s => s ∈ ["vec2".toList, "vec3".toList, "vec4".toList]
  plain name || (match name with
    | c :: rest => c ∈ ['i', 'u', 'b', 'd'] && plain rest
    | [] => false)

def isSamplerType (name : List Char) : Bool := Text.occursIn "sampler".toList name

def classify (head keys : List (List Char)) : Fate :=
  if head.any fun w => w = "in".toList || w = "out".toList then .keep
  else if head.any fun w => isSamplerType w || isVectorType w then .remove
  else if keys.any fun k => k = "set".toList || k = "binding".toList then .replace
  else .keep

/-- Splits behind the parenthesis that closes the one opened before; `depth` further ones are open
inside it. -/
def splitClosing : Nat → List Piece → Option (List Piece × List Piece)
  | _, [] => none
  | depth, .mark '(' :: rest =>
    (splitClosing (depth + 1) rest).map fun r => (.mark '(' :: r.1, r.2)
  | 0, .mark ')' :: rest => some ([.mark ')'], rest)
  | depth + 1, .mark ')' :: rest =>
    (splitClosing depth rest).map fun r => (.mark ')' :: r.1, r.2)
  | depth, p :: rest => (splitClosing depth rest).map fun r => (p :: r.1, r.2)

def splitOpening : List Piece → Option (List Piece × List Piece)
  | .mark '(' :: rest => some ([.mark '('], rest)
  | .blank run :: rest => (splitOpening rest).map fun r => (.blank run :: r.1, r.2)
  | .comment text :: rest => (splitOpening rest).map fun r => (.comment text :: r.1, r.2)
  | _ => none

def keysOf : Bool → List Piece → List (List Char)
  | _, [] => []
  | _, .mark ',' :: rest => keysOf true rest
  | true, .word w :: rest => w :: keysOf false rest
  | expected, .blank _ :: rest => keysOf expected rest
  | expected, .comment _ :: rest => keysOf expected rest
  | _, _ :: rest => keysOf false rest

def headOf : List Piece → List (List Char)
  | [] => []
  | .mark ';' :: _ => []
  | .mark '\x7b' :: _ => []
  | .word w :: rest => w :: headOf rest
  | _ :: rest => headOf rest

structure Clause where
  pieces : List Piece
  keys : List (List Char)
  head : List (List Char)
deriving DecidableEq, Repr

def Clause.fate (c : Clause) : Fate := classify c.head c.keys

def Clause.text (c : Clause) : List Char := textOf c.pieces

inductive Segment where
  | plain (p : Piece)
  | clause (c : Clause)
deriving DecidableEq, Repr

def layoutWord : List Char := "layout".toList

inductive Opening where
  | absent
  | unclosed
  | closed (c : Clause) (after : List Piece)

def opening (rest : List Piece) : Opening :=
  match splitOpening rest with
  | none => .absent
  | some (before, inside) =>
    match splitClosing 0 inside with
    | none => .unclosed
    | some (body, after) =>
      .closed ⟨.word layoutWord :: before ++ body, keysOf true body.dropLast, headOf after⟩ after

theorem splitClosing_length_lt {depth : Nat} {ps : List Piece} {r : List Piece × List Piece}
    (h : splitClosing depth ps = some r) : r.2.length < ps.length := by
  fun_induction splitClosing depth ps generalizing r with
  | case1 => simp at h
  | case3 rest => cases h; simp
  | _ =>
    rename_i ih
    obtain ⟨s, hs, rfl⟩ := Option.map_eq_some_iff.1 h
    have shorter := ih hs
    exact Nat.lt_succ_of_lt shorter

theorem splitOpening_length_lt {ps : List Piece} {r : List Piece × List Piece}
    (h : splitOpening ps = some r) : r.2.length < ps.length := by
  fun_induction splitOpening ps generalizing r with
  | case1 rest => cases h; simp
  | case4 => simp at h
  | _ =>
    rename_i ih
    obtain ⟨s, hs, rfl⟩ := Option.map_eq_some_iff.1 h
    have shorter := ih hs
    exact Nat.lt_succ_of_lt shorter

theorem opening_length_lt {ps : List Piece} {c : Clause} {after : List Piece}
    (h : opening ps = .closed c after) : after.length < ps.length := by
  unfold opening at h
  split at h
  · simp at h
  · rename_i before inside ho
    split at h
    · simp at h
    · rename_i body rest hc
      cases h
      exact Nat.lt_trans (splitClosing_length_lt hc) (splitOpening_length_lt ho)

/-- Finds the clauses from left to right. The search goes on behind each clause, and ends where one
is never closed. -/
def segments : List Piece → List Segment
  | [] => []
  | p :: rest =>
    if p = .word layoutWord then
      match _found : opening rest with
      | .absent => .plain p :: segments rest
      | .unclosed => (p :: rest).map .plain
      | .closed c after => .clause c :: segments after
    else .plain p :: segments rest
termination_by ps => ps.length
decreasing_by
  · simp
  · exact Nat.lt_succ_of_lt (opening_length_lt _found)
  · simp

/-- The adjusted text. Blanks directly behind a removed clause go with it. -/
def render : Bool → List Segment → List Char
  | _, [] => []
  | true, .plain (.blank _) :: rest => render false rest
  | _, .plain p :: rest => p.text ++ render false rest
  | _, .clause c :: rest =>
    match c.fate with
    | .keep => c.text ++ render false rest
    | .remove => render true rest
    | .replace => sharedLayout.toList ++ render false rest

def stripLayout (source : List Char) : List Char :=
  render false (segments (pieces source))

def stripLayoutText (source : String) : String := String.ofList (stripLayout source.toList)

def clauses (source : List Char) : List Clause :=
  (segments (pieces source)).filterMap fun | .clause c => some c | .plain _ => none

end SceneGpu.Glsl
