import SceneGpu.Pattern.Charset
import SceneGpu.Pattern.Expression
/-!
How much room the states take that decide whether an expression occurs: once read forwards, with
marks where groups start and end, and once read backwards, without. Each state has a fixed size, and
each way out of a branching state adds to it. A set of characters takes rows of byte ranges, and each
character of the set belongs to one row.
-/
namespace SceneGpu.Pattern

abbrev ByteRow := List (Nat × Nat)

def blockSize : Nat → Nat
  | 0 => 1
  | n + 1 => 64 * blockSize n

def byteRows (base : Nat) : Nat → Nat → Nat → List ByteRow
  | 0, lo, hi => [[(base + lo, base + hi)]]
  | n + 1, lo, hi =>
    let unit := blockSize (n + 1)
    let first := lo / unit
    let last := hi / unit
    let below (lead lo hi : Nat) : List ByteRow :=
      (byteRows 0x80 n lo hi).map ((base + lead, base + lead) :: ·)
    if first = last then below first (lo % unit) (hi % unit)
    else
      let partFirst := lo % unit ≠ 0
      let partLast := hi % unit ≠ unit - 1
      let start := if partFirst then first + 1 else first
      let stop := if partLast then last else last + 1
      (if partFirst then below first (lo % unit) (unit - 1) else []) ++
        (if start < stop then
          [(base + start, base + (stop - 1)) :: List.replicate (n + 1) (0x80, 0xBF)]
        else []) ++
        (if partLast then below last 0 (hi % unit) else [])

/-- Code points by the length of their UTF-8 form: the first and last one, the first byte's base and
the number of continuation bytes. Surrogates have no form. -/
def byteClasses : List (Nat × Nat × Nat × Nat) :=
  [(0, 0x7F, 0, 0), (0x80, 0x7FF, 0xC0, 1), (0x800, 0xD7FF, 0xE0, 2), (0xE000, 0xFFFF, 0xE0, 2),
   (0x10000, 0x10FFFF, 0xF0, 3)]

def codePointRows (lo hi : Nat) : List ByteRow :=
  byteClasses.flatMap fun (first, last, base, n) =>
    if max lo first ≤ min hi last then byteRows base n (max lo first) (min hi last) else []

def codePoint (ordinal : Nat) : Nat := if ordinal < gapStart then ordinal else ordinal + gapSize

namespace Charset

def byteRows (s : Charset) : List ByteRow :=
  s.ranges.flatMap fun r => codePointRows (codePoint r.1) (codePoint r.2)

def isAscii (s : Charset) : Bool := s.ranges.all fun r => r.2 < 128

end Charset

def maxSize : Nat := 10485760

def stateSize : Nat := 32

def branchSize : Nat := 4

def readSize : Nat := 8

def heads (rows : List ByteRow) : List (Nat × Nat) := (rows.filterMap List.head?).eraseDups

def tailsAfter (head : Nat × Nat) (rows : List ByteRow) : List ByteRow :=
  rows.filterMap fun
    | [] => none
    | h :: rest => if h = head then some rest else none

def continuations : Nat → List ByteRow → List (List ByteRow)
  | 0, _ => []
  | n + 1, rows =>
    if heads rows = [] then []
    else rows :: (heads rows).flatMap fun h => continuations n (tailsAfter h rows)

def sharedStarts : Nat → List ByteRow → Nat
  | 0, _ => 0
  | n + 1, rows =>
    (heads rows).foldl (fun total h => total + 1 + sharedStarts n (tailsAfter h rows)) 0

def total (sizes : List Nat) : Nat := sizes.foldl (· + ·) 0

/-- Forwards, places with equal continuations are one state. -/
def forwardSize (rows : List ByteRow) : Nat :=
  stateSize + total (((continuations 4 rows).eraseDups).map fun place =>
    stateSize + readSize * (heads place).length)

/-- Backwards, rows share what they start with and branch at the other end. -/
def backwardSize (rows : List ByteRow) : Nat :=
  stateSize * (2 + sharedStarts 4 rows) + branchSize * rows.length

inductive Direction where
  | forwards
  | backwards
deriving DecidableEq, Repr

def utf8Length (codePoint : Nat) : Nat :=
  if codePoint < 0x80 then 1
  else if codePoint < 0x800 then 2
  else if codePoint < 0x10000 then 3
  else 4

def Charset.size (d : Direction) (s : Charset) : Nat :=
  match s.single? with
  | some n => stateSize * utf8Length (codePoint n)
  | none =>
    if s.isAscii then 2 * stateSize + readSize * s.ranges.length
    else match d with
      | .forwards => forwardSize s.byteRows
      | .backwards => backwardSize s.byteRows

namespace Expression

def forkSize : Nat := stateSize + 2 * branchSize

def repeatedSize (least : Nat) (most : Option Nat) (mayBeEmpty : Bool) (size : Nat) : Nat :=
  match least, most with
  | 0, none => if mayBeEmpty then 2 * forkSize + stateSize + size else forkSize + size
  | n + 1, none => (n + 1) * size + forkSize
  | least, some most =>
    let sure := if least = 0 then stateSize else least * size
    if least = most then sure
    else if least = 0 ∧ most = 1 then forkSize + stateSize + size
    else sure + stateSize + (most - least) * (forkSize + size)

def branchOf (inRow : Bool) (size : Nat) : Nat := if inRow then size + branchSize else size

def markSize : Direction → Nat
  | .forwards => 2 * stateSize
  | .backwards => 0

def size (d : Direction) : Bool → Expression → Nat
  | inRow, .empty => branchOf inRow stateSize
  | inRow, .look _ => branchOf inRow stateSize
  | inRow, .one s => branchOf inRow (s.size d)
  | inRow, .both a b => branchOf inRow (size d false a + size d false b)
  | inRow, .either a b => (if inRow then 0 else 2 * stateSize) + size d true a + size d true b
  | inRow, .repeated least most e =>
    branchOf inRow (repeatedSize least most e.mayBeEmpty (size d false e))
  | inRow, .capture e => branchOf inRow (markSize d + size d false e)

/-- The states around an expression: the end in either direction and, forwards, the marks of the whole
match and the way to its start. -/
def frameSize : Direction → Nat
  | .forwards => 3 * stateSize + 112
  | .backwards => 2 * stateSize

def fits (e : Expression) : Bool :=
  [Direction.forwards, .backwards].all fun d => frameSize d + size d false e ≤ maxSize

end Expression
end SceneGpu.Pattern
