/-!
Sets of characters, as closed ranges in ascending order with a gap between any two. Characters are
counted without the gap of the surrogates, so that each number below the count is a character.
-/
namespace SceneGpu.Pattern

/-- How many surrogates there are, which lie behind the first `gapStart` characters. -/
def gapSize : Nat := 0x800

def gapStart : Nat := 0xD800

def ordinal (c : Char) : Nat := if c.toNat < gapStart then c.toNat else c.toNat - gapSize

def lastOrdinal : Nat := 0x10FFFF - gapSize

structure Charset where
  ranges : List (Nat × Nat)
deriving DecidableEq, Repr

namespace Charset

def empty : Charset := ⟨[]⟩

def all : Charset := ⟨[(0, lastOrdinal)]⟩

def contains (s : Charset) (c : Char) : Bool :=
  s.ranges.any fun r => r.1 ≤ ordinal c && ordinal c ≤ r.2

def insertRange : Nat → Nat → List (Nat × Nat) → List (Nat × Nat)
  | lo, hi, [] => [(lo, hi)]
  | lo, hi, r :: rest =>
    if hi + 1 < r.1 then (lo, hi) :: r :: rest
    else if r.2 + 1 < lo then r :: insertRange lo hi rest
    else insertRange (min lo r.1) (max hi r.2) rest

def ofRanges (ranges : List (Nat × Nat)) : Charset :=
  ⟨ranges.foldr (fun r => insertRange r.1 r.2) []⟩

def between (first last : Char) : Charset := ofRanges [(ordinal first, ordinal last)]

def ofChars (ranges : List (Char × Char)) : Charset :=
  ofRanges (ranges.map fun r => (ordinal r.1, ordinal r.2))

def union (s t : Charset) : Charset := ofRanges (s.ranges ++ t.ranges)

def inter (s t : Charset) : Charset :=
  ofRanges (s.ranges.flatMap fun a =>
    (t.ranges.map fun b => (max a.1 b.1, min a.2 b.2)).filter fun r => r.1 ≤ r.2)

def gaps : Nat → List (Nat × Nat) → List (Nat × Nat)
  | next, [] => if next ≤ lastOrdinal then [(next, lastOrdinal)] else []
  | next, r :: rest => (if next < r.1 then [(next, r.1 - 1)] else []) ++ gaps (r.2 + 1) rest

def compl (s : Charset) : Charset := ⟨gaps 0 s.ranges⟩

def diff (s t : Charset) : Charset := s.inter t.compl

def symmDiff (s t : Charset) : Charset := (s.union t).diff (s.inter t)

def isEmpty (s : Charset) : Bool := s.ranges.isEmpty

def single? (s : Charset) : Option Nat :=
  match s.ranges with
  | [(lo, hi)] => if lo = hi then some lo else none
  | _ => none

def shiftRange (f : Nat → Nat) (r : Nat × Nat) : Nat × Nat := (f r.1, f r.2)

def foldAscii (s : Charset) : Charset :=
  let lowered := (s.inter (between 'A' 'Z')).ranges.map (shiftRange (· + 32))
  let raised := (s.inter (between 'a' 'z')).ranges.map (shiftRange (· - 32))
  ofRanges (s.ranges ++ lowered ++ raised)

end Charset
end SceneGpu.Pattern
