import SceneGpu.Pattern.Fault
import SceneGpu.Text.Basic
/-!
A place in a pattern together with what comes after it, and how often a part is repeated there. In a loose
pattern blanks and comments are passed over, and a comment runs from a hash sign to the end of its line. A
part has a sign or bounds in braces behind it, and a question mark behind either asks for few rounds.
-/
namespace SceneGpu.Pattern

structure Cursor where
  mark : Mark
  rest : List Char
deriving DecidableEq, Repr

namespace Cursor

def ofText (text : String) : Cursor := ⟨.first, text.toList⟩

def here (c : Cursor) : Span := ⟨c.mark, c.mark⟩

def since (c : Cursor) (start : Mark) : Span := ⟨start, c.mark⟩

def bump (c : Cursor) : Cursor :=
  match c.rest with
  | [] => c
  | x :: rest => ⟨c.mark.past x, rest⟩

def next (c : Cursor) : Span := ⟨c.mark, c.bump.mark⟩

def blanks : Bool → Mark → List Char → Cursor
  | _, m, [] => ⟨m, []⟩
  | true, m, x :: rest => blanks (x ≠ '\n') (m.past x) rest
  | false, m, x :: rest =>
    if Text.isBlank x then blanks false (m.past x) rest
    else if x = '#' then blanks true (m.past x) rest
    else ⟨m, x :: rest⟩

def skip (loose : Bool) (c : Cursor) : Cursor := if loose then blanks false c.mark c.rest else c

def step (loose : Bool) (c : Cursor) : Cursor := c.bump.skip loose

def after? (text : List Char) (c : Cursor) : Option Cursor :=
  if text.isPrefixOf c.rest then some (text.foldl (fun c _ => c.bump) c) else none

def startsWith (text : List Char) (c : Cursor) : Bool := text.isPrefixOf c.rest

theorem blanks_length_le (inside : Bool) (m : Mark) (cs : List Char) :
    (blanks inside m cs).rest.length ≤ cs.length := by
  induction cs generalizing inside m with
  | nil => cases inside <;> simp [blanks]
  | cons x rest ih =>
    cases inside with
    | true => exact Nat.le_succ_of_le (ih _ _)
    | false =>
      rw [blanks]
      split
      · exact Nat.le_succ_of_le (ih _ _)
      · split
        · exact Nat.le_succ_of_le (ih _ _)
        · exact Nat.le_refl _

theorem skip_length_le (loose : Bool) (c : Cursor) :
    (c.skip loose).rest.length ≤ c.rest.length := by
  unfold skip
  split
  · exact blanks_length_le _ _ _
  · exact Nat.le_refl _

theorem bump_length_lt {c : Cursor} {x : Char} {rest : List Char} (h : c.rest = x :: rest) :
    c.bump.rest.length < c.rest.length := by
  simp [bump, h]

theorem step_length_lt {loose : Bool} {c : Cursor} {x : Char} {rest : List Char}
    (h : c.rest = x :: rest) : (c.step loose).rest.length < c.rest.length :=
  Nat.lt_of_le_of_lt (skip_length_le loose c.bump) (bump_length_lt h)

end Cursor

structure Count where
  least : Nat
  most : Option Nat
deriving DecidableEq, Repr

def Count.isValid (n : Count) : Bool := n.most.all fun most => n.least ≤ most

def countOfSign? : Char → Option Count
  | '?' => some ⟨0, some 1⟩
  | '*' => some ⟨0, none⟩
  | '+' => some ⟨1, none⟩
  | _ => none

/-- Passes over blanks, which may stand around a bound in any pattern. -/
def aroundBound (loose : Bool) (c : Cursor) : Cursor :=
  match _h : c.rest with
  | [] => c
  | x :: _ => if Text.isBlank x then aroundBound loose (c.step loose) else c
termination_by c.rest.length
decreasing_by exact Cursor.step_length_lt ‹_›

def boundDigits (loose : Bool) (value digits : Nat) (c : Cursor) : Nat × Nat × Cursor :=
  match _h : c.rest with
  | [] => (value, digits, c)
  | x :: _ =>
    if x.isDigit then
      boundDigits loose (value * 10 + (x.toNat - '0'.toNat)) (digits + 1) (c.step loose)
    else (value, digits, c)
termination_by c.rest.length
decreasing_by exact Cursor.step_length_lt ‹_›

/-- Reads a bound. The place behind it is given even if it cannot be read. -/
def bound (loose : Bool) (c : Cursor) : Reading Nat × Cursor :=
  let first := aroundBound false c
  let (value, digits, last) := boundDigits loose 0 0 first
  let span := last.since first.mark
  let result :=
    if digits = 0 then refuse .emptyCount span
    else if value < UInt32.size then .ok value
    else refuse .badDecimal span
  (result, aroundBound loose last)

def bounds (loose : Bool) (c : Cursor) : Reading (Count × Cursor) :=
  let start := c.mark
  let inner := c.step loose
  if inner.rest = [] then refuse .unclosedCount (inner.since start)
  else
    let (least, last) := bound loose inner
    match last.rest with
    | [] => refuse .unclosedCount (last.since start)
    | ',' :: _ =>
      let behind := last.step loose
      match behind.rest with
      | [] => refuse .unclosedCount (behind.since start)
      | '\x7d' :: _ => least.map fun n => (⟨n, none⟩, behind)
      | _ => do
        let n ← least
        let (most, last) := bound loose behind
        let m ← most
        if last.rest.head? = some '\x7d' then return (⟨n, some m⟩, last)
        else refuse .unclosedCount (last.since start)
    | x :: _ => do
      let n ← least
      if x = '\x7d' then return (⟨n, some n⟩, last)
      else refuse .unclosedCount (last.since start)

def afterLazy (c : Cursor) : Cursor := (c.after? ['?']).getD c

def bracedCount (loose : Bool) (c : Cursor) : Reading (Count × Cursor) := do
  let (n, last) ← bounds loose c
  let behind := afterLazy (last.step loose)
  if n.isValid then return (n, behind) else refuse .badCount (behind.since c.mark)

end SceneGpu.Pattern
