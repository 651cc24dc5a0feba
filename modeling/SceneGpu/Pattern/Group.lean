import SceneGpu.Pattern.Cursor
import SceneGpu.Pattern.Node
/-!
Reading what an opening parenthesis starts: a group with a name, with flags or with neither, or flags
alone.
-/
namespace SceneGpu.Pattern

abbrev Names := List (String × Span)

inductive Opening where
  | flags (change : FlagChange)
  | group (kind : GroupKind)

def isNameStart (c : Char) : Bool := c = '_' || Text.isAlphabetic c

def isNamePart (c : Char) : Bool := "_.[]".toList.contains c || Text.isAlphanumeric c

def groupName (first : Bool) (c : Cursor) : Reading Cursor :=
  match _h : c.rest with
  | [] => refuse .cutName c.here
  | x :: _ =>
    if x = '>' then .ok c
    else if if first then isNameStart x else isNamePart x then groupName false c.bump
    else refuse .badName c.next
termination_by c.rest.length
decreasing_by exact Cursor.bump_length_lt ‹_›

def namedGroup (names : Names) (c : Cursor) : Reading (Names × Cursor) := do
  let last ← groupName true c
  let letters := c.rest.take (last.mark.offset - c.mark.offset)
  let name := String.ofList letters
  let span := last.since c.mark
  if letters = [] then refuse .emptyName span
  else match names.find? (·.1 = name) with
    | some (_, earlier) => .error ⟨.repeatedName, span, some earlier⟩
    | none => return ((name, span) :: names, last.bump)

def flagOfLetter? : Char → Option Flag
  | 'i' => some .caseless
  | 'm' => some .lines
  | 's' => some .dotAll
  | 'U' => some .lazy
  | 'u' => some .unicode
  | 'R' => some .returns
  | 'x' => some .loose
  | _ => none

structure FlagRow where
  flags : List (Flag × Bool × Span)
  minus : Option Span
  /-- Nothing stands behind the minus sign yet. -/
  dangling : Bool

def FlagRow.change (r : FlagRow) : FlagChange := (r.flags.map fun f => (f.1, f.2.1)).reverse

def FlagRow.push (r : FlagRow) (x : Char) (span : Span) : Reading FlagRow :=
  if x = '-' then
    match r.minus with
    | some earlier => .error ⟨.repeatedMinus, span, some earlier⟩
    | none => .ok { r with minus := some span, dangling := true }
  else match flagOfLetter? x with
    | none => refuse .badFlag span
    | some flag =>
      match r.flags.find? (·.1 = flag) with
      | some (_, _, earlier) => .error ⟨.repeatedFlag, span, some earlier⟩
      | none => .ok { r with flags := (flag, r.minus.isNone, span) :: r.flags, dangling := false }

def flagRow (r : FlagRow) (c : Cursor) : Reading (FlagRow × Cursor) :=
  match _h : c.rest with
  | [] => refuse .cutFlags c.here
  | x :: _ =>
    if x = ':' || x = ')' then
      match r.minus with
      | some span => if r.dangling then refuse .danglingMinus span else .ok (r, c)
      | none => .ok (r, c)
    else
      match r.push x c.next with
      | .error f => .error f
      | .ok r => flagRow r c.bump
termination_by c.rest.length
decreasing_by exact Cursor.bump_length_lt ‹_›

/-- Reads flags behind the question mark that stands at `mark`. No flags at all are a question mark
with nothing to repeat. -/
def flagGroup (opened mark : Span) (c : Cursor) : Reading (Opening × Cursor) :=
  if c.rest = [] then refuse .unclosedGroup opened
  else do
    let (row, last) ← flagRow ⟨[], none, false⟩ c
    if last.rest.head? = some ':' then return (.group (.plain row.change), last.bump)
    else if row.flags.isEmpty then refuse .nothingToRepeat mark
    else return (.flags row.change, last.bump)

def lookarounds : List (List Char) := ["?=", "?!", "?<=", "?<!"].map String.toList

def opening (loose : Bool) (names : Names) (c : Cursor) : Reading (Opening × Names × Cursor) := do
  let inner := c.step loose
  match lookarounds.findSome? (inner.after? ·) with
  | some behind => refuse .lookaround (behind.since c.mark)
  | none =>
    match (inner.after? "?P<".toList).or (inner.after? "?<".toList) with
    | some behind =>
      let (names, last) ← namedGroup names behind
      return (.group .capturing, names, last)
    | none =>
      match inner.after? ['?'] with
      | some behind =>
        let (o, last) ← flagGroup c.next inner.here behind
        return (o, names, last)
      | none => return (.group .capturing, names, inner)

end SceneGpu.Pattern
