import SceneGpu.Text.Basic
/-!
Shader source cut into pieces: runs of blanks, comments, words, numbers and single marks. The pieces
of a text, put together, are the text.
-/
namespace SceneGpu.Glsl

inductive Piece where
  | blank (run : List Char)
  | comment (text : List Char)
  | word (text : List Char)
  | number (text : List Char)
  | mark (c : Char)
deriving DecidableEq, Repr

def Piece.text : Piece → List Char
  | .blank run => run
  | .comment text => text
  | .word text => text
  | .number text => text
  | .mark c => [c]

def isWordStart (c : Char) : Bool := Text.isAlphabetic c || c = '_'

def isWordPart (c : Char) : Bool := Text.isAlphanumeric c || c = '_'

def isNumberPart (c : Char) : Bool := isWordPart c || c = '.'

def splitLine : List Char → List Char × List Char
  | [] => ([], [])
  | c :: rest =>
    if c = '\n' then ([c], rest)
    else let r := splitLine rest; (c :: r.1, r.2)

def splitBlock : List Char → List Char × List Char
  | '*' :: '/' :: rest => (['*', '/'], rest)
  | c :: rest => let r := splitBlock rest; (c :: r.1, r.2)
  | [] => ([], [])

def firstPiece (c : Char) (rest : List Char) : Piece × List Char :=
  if Text.isBlank c then (.blank (c :: rest.takeWhile Text.isBlank), rest.dropWhile Text.isBlank)
  else if c = '/' && rest.head? = some '/' then
    let r := splitLine rest.tail
    (.comment ('/' :: '/' :: r.1), r.2)
  else if c = '/' && rest.head? = some '*' then
    let r := splitBlock rest.tail
    (.comment ('/' :: '*' :: r.1), r.2)
  else if isWordStart c then (.word (c :: rest.takeWhile isWordPart), rest.dropWhile isWordPart)
  else if c.isDigit then (.number (c :: rest.takeWhile isNumberPart), rest.dropWhile isNumberPart)
  else (.mark c, rest)

theorem splitLine_length_le (s : List Char) : (splitLine s).2.length ≤ s.length := by
  induction s with
  | nil => simp [splitLine]
  | cons c rest ih =>
    simp only [splitLine]
    split
    · simp
    · exact Nat.le_succ_of_le ih

theorem splitBlock_length_le (s : List Char) : (splitBlock s).2.length ≤ s.length := by
  fun_induction splitBlock s with
  | case1 rest => simp; omega
  | case2 c rest _ r ih => exact Nat.le_succ_of_le ih
  | case3 => simp

theorem firstPiece_length_le (c : Char) (rest : List Char) :
    (firstPiece c rest).2.length ≤ rest.length := by
  have tail : rest.tail.length ≤ rest.length := by simp
  unfold firstPiece
  split
  · exact (List.dropWhile_sublist _).length_le
  split
  · exact Nat.le_trans (splitLine_length_le _) tail
  split
  · exact Nat.le_trans (splitBlock_length_le _) tail
  split
  · exact (List.dropWhile_sublist _).length_le
  split
  · exact (List.dropWhile_sublist _).length_le
  · simp

def pieces : List Char → List Piece
  | [] => []
  | c :: rest => (firstPiece c rest).1 :: pieces (firstPiece c rest).2
termination_by s => s.length
decreasing_by exact Nat.lt_succ_of_le (firstPiece_length_le c rest)

def Piece.isToken : Piece → Bool
  | .blank _ => false
  | .comment _ => false
  | _ => true

def tokens (ps : List Piece) : List Piece := ps.filter Piece.isToken

def textOf (ps : List Piece) : List Char := ps.flatMap Piece.text

end SceneGpu.Glsl
