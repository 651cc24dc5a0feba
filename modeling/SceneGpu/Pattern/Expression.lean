import SceneGpu.Pattern.Charset
import SceneGpu.Pattern.Node
import SceneGpu.Text.Basic
/-!
What a pattern means, without spans and flags, and whether it occurs in a text. The smart constructors drop
what cannot matter. A text of n characters has n + 1 places, and a row of marks tells which of them can be
reached; an expression leads from marks to marks.
-/
namespace SceneGpu.Pattern

inductive Alphabet where
  | ascii
  | unicode
deriving DecidableEq, Repr

inductive Look where
  | textStart
  | textEnd
  | lineStart
  | lineEnd
  /-- A line may end with a carriage return too. -/
  | returnLineStart
  | returnLineEnd
  | word (alphabet : Alphabet) (bound : WordBound)
deriving DecidableEq, Repr

inductive Expression where
  | empty
  | look (l : Look)
  /-- One character of a set. -/
  | one (s : Charset)
  | both (left right : Expression)
  | either (left right : Expression)
  | repeated (least : Nat) (most : Option Nat) (sub : Expression)
  | capture (sub : Expression)
deriving DecidableEq, Repr

namespace Expression

def onlyEmpty : Expression → Bool
  | .empty => true
  | .look _ => true
  | .one _ => false
  | .both a b => a.onlyEmpty && b.onlyEmpty
  | .either a b => a.onlyEmpty && b.onlyEmpty
  | .repeated _ _ e => e.onlyEmpty
  | .capture e => e.onlyEmpty

/-- Whether an expression matches the empty text where its conditions hold. A set without characters
counts as if it did. -/
def mayBeEmpty : Expression → Bool
  | .empty => true
  | .look _ => true
  | .one s => s.isEmpty
  | .both a b => a.mayBeEmpty && b.mayBeEmpty
  | .either a b => a.mayBeEmpty || b.mayBeEmpty
  | .repeated least _ e => least = 0 || e.mayBeEmpty
  | .capture e => e.mayBeEmpty

def concat : List Expression → Expression
  | [] => .empty
  | [e] => e
  | e :: rest => .both e (concat rest)

def ofParts (parts : List Expression) : Expression := concat (parts.filter (· ≠ .empty))

def charset? : Expression → Option Charset
  | .one s => some s
  | _ => none

def choose : List Expression → Expression
  | [] => .one .empty
  | [e] => e
  | e :: rest => .either e (choose rest)

def ofBranches (branches : List Expression) : Expression :=
  match branches.mapM charset? with
  | some sets => .one (sets.foldl Charset.union .empty)
  | none => choose branches

/-- No text but the empty one needs more than one round. -/
def ofCount (least : Nat) (most : Option Nat) (e : Expression) : Expression :=
  let (least, most) :=
    if e.onlyEmpty then (min least 1, some (min (most.getD 1) 1)) else (least, most)
  if least = 0 ∧ most = some 0 then .empty
  else if least = 1 ∧ most = some 1 then e
  else .repeated least most e

def hasUnicodeWords : Expression → Bool
  | .empty => false
  | .look (.word .unicode _) => true
  | .look _ => false
  | .one _ => false
  | .both a b => a.hasUnicodeWords || b.hasUnicodeWords
  | .either a b => a.hasUnicodeWords || b.hasUnicodeWords
  | .repeated _ _ e => e.hasUnicodeWords
  | .capture e => e.hasUnicodeWords

end Expression

abbrev Marks := List Bool

abbrev Place := Option Char × Option Char

def places (before : Option Char) : List Char → List Place
  | [] => [(before, none)]
  | c :: rest => (before, some c) :: places (some c) rest

def Alphabet.isWord (a : Alphabet) (c : Char) : Bool :=
  c = '_' || match a with
    | .ascii => c.isAlphanum
    | .unicode => Text.isAlphanumeric c

def WordBound.holds (before behind : Bool) : WordBound → Bool
  | .edge => before != behind
  | .noEdge => before == behind
  | .start => !before && behind
  | .stop => before && !behind
  | .startHalf => !before
  | .stopHalf => !behind

/-- A line feed that belongs to the carriage return before it ends no line of its own. -/
def Look.holds : Look → Place → Bool
  | .textStart, (before, _) => before.isNone
  | .textEnd, (_, behind) => behind.isNone
  | .lineStart, (before, _) => before.all (· = '\n')
  | .lineEnd, (_, behind) => behind.all (· = '\n')
  | .returnLineStart, (before, behind) =>
    before.all fun c => c = '\n' || (c = '\r' && behind ≠ some '\n')
  | .returnLineEnd, (before, behind) =>
    behind.all fun c => c = '\r' || (c = '\n' && before ≠ some '\r')
  | .word a bound, (before, behind) =>
    bound.holds (before.any a.isWord) (behind.any a.isWord)

namespace Marks

def union (m n : Marks) : Marks := List.zipWith (· || ·) m n

def keep (look : Look) (here : List Place) (m : Marks) : Marks :=
  List.zipWith (fun b p => b && look.holds p) m here

def advance (s : Charset) (text : List Char) (m : Marks) : Marks :=
  false :: List.zipWith (fun b c => b && s.contains c) m text

def rounds (f : Marks → Marks) : Nat → Marks → Marks
  | 0, m => m
  | n + 1, m =>
    let next := f m
    if next = m then m else rounds f n next

def upTo (f : Marks → Marks) (n : Nat) (m : Marks) : Marks := rounds (fun m => m.union (f m)) n m

end Marks

namespace Expression

/-- Where an expression leads to. More rounds than there are places reach nothing new. -/
def reach (text : List Char) : Expression → Marks → Marks
  | .empty, m => m
  | .look l, m => m.keep l (places none text)
  | .one s, m => m.advance s text
  | .both a b, m => b.reach text (a.reach text m)
  | .either a b, m => (a.reach text m).union (b.reach text m)
  | .repeated least most e, m =>
    Marks.upTo (e.reach text) ((most.map (· - least)).getD (text.length + 1))
      (Marks.rounds (e.reach text) least m)
  | .capture e, m => e.reach text m

def occursIn (e : Expression) (text : String) : Bool :=
  (e.reach text.toList (List.replicate (text.length + 1) true)).any id

end Expression
end SceneGpu.Pattern
