import SceneGpu.Pattern.Escape
/-!
Reading a class in brackets. Classes nest; between two sets may stand an operator, and operators of
one class apply from left to right.
-/
namespace SceneGpu.Pattern

structure Row where
  span : Span
  items : List Members

namespace Row

def startingAt (c : Cursor) : Row := ⟨c.here, []⟩

def push (r : Row) (m : Members) : Row :=
  ⟨⟨if r.items.isEmpty then m.span.start else r.span.start, m.span.stop⟩, m :: r.items⟩

def members (r : Row) : Members :=
  match r.items with
  | [] => .nothing r.span
  | [m] => m
  | items => .union r.span items.reverse

end Row

structure OpenClass where
  /-- The opening bracket and what belongs to it. -/
  span : Span
  negated : Bool
  /-- The set before the last operator. -/
  left : Option (SetOperator × Members)
  row : Row

namespace OpenClass

def push (o : OpenClass) (m : Members) : OpenClass := { o with row := o.row.push m }

def members (o : OpenClass) : Members :=
  let right := o.row.members
  match o.left with
  | none => right
  | some (operator, left) => .combined ⟨left.span.start, right.span.stop⟩ operator left right

def operate (o : OpenClass) (operator : SetOperator) (behind : Cursor) : OpenClass :=
  { o with left := some (operator, o.members), row := Row.startingAt behind }

end OpenClass

def leadingHyphens (loose : Bool) (start : Mark) (row : Row) (c : Cursor) : Reading (Row × Cursor) :=
  match _h : c.rest with
  | [] => refuse .unclosedClass ⟨start, start⟩
  | x :: _ =>
    if x = '-' then
      leadingHyphens loose start (row.push (.literal ⟨c.next, '-', false⟩)) (c.step loose)
    else .ok (row, c)
termination_by c.rest.length
decreasing_by exact Cursor.step_length_lt ‹_›

/-- Reads an opening bracket and what may follow it only there: the sign of negation, hyphens, and a
closing bracket that stands for itself. -/
def openClass (loose : Bool) (c : Cursor) : Reading (OpenClass × Cursor) := do
  let start := c.mark
  let inner := c.step loose
  let negated := inner.rest.head? = some '^'
  let c := if negated then inner.step loose else inner
  if c.rest = [] then refuse .unclosedClass (c.since start)
  else
    let (row, c) ← leadingHyphens loose start (Row.startingAt c) c
    if row.items.isEmpty && c.rest.head? = some ']' then
      let row := row.push (.literal ⟨c.next, ']', false⟩)
      let c := c.step loose
      if c.rest = [] then refuse .unclosedClass (c.since start)
      else return (⟨c.since start, negated, none, row⟩, c)
    else return (⟨c.since start, negated, none, row⟩, c)

def namedClass? (c : Cursor) : Option (Members × Cursor) := do
  let inner ← c.after? ['[', ':']
  let negated := inner.rest.head? = some '^'
  let inner := if negated then inner.bump else inner
  let letters := inner.rest.takeWhile (· ≠ ':')
  let name ← ClassName.ofText? (String.ofList letters)
  let behind ← inner.after? (letters ++ [':', ']'])
  return (.named (behind.since c.mark) negated name, behind)

/-- The next character after blanks and hash signs, if any other follows; otherwise the very next. -/
def peek (loose : Bool) (c : Cursor) : Option Char :=
  let follow := c.bump.rest
  if !loose then follow.head?
  else
    let afterBlanks := follow.dropWhile Text.isBlank
    let afterHash := match afterBlanks with
      | '#' :: more => more.dropWhile Text.isBlank
      | more => more
    (afterHash.head?).or follow.head?

def classAtom (loose : Bool) (c : Cursor) : Reading (Atom × Cursor) :=
  match c.rest with
  | '\\' :: _ => escape loose c
  | x :: _ => .ok (.literal ⟨c.next, x, false⟩, c.bump)
  | [] => refuse .cutEscape c.here

def Atom.asMembers : Atom → Reading Members
  | .literal l => .ok (.literal l)
  | .shorthand span negated kind => .ok (.shorthand span negated kind)
  | .property span name => .ok (.property span name)
  | a => refuse .badClassEscape a.span

def Atom.asLiteral : Atom → Reading Literal
  | .literal l => .ok l
  | a => refuse .rangeOfClass a.span

/-- Reads a member or a range. A hyphen makes no range before a closing bracket or another hyphen. -/
def member (loose : Bool) (opened : Span) (c : Cursor) : Reading (Members × Cursor) := do
  let (first, c) ← classAtom loose c
  let c := c.skip loose
  match c.rest with
  | [] => refuse .unclosedClass opened
  | '-' :: _ =>
    if peek loose c = some ']' || peek loose c = some '-' then
      let m ← first.asMembers
      return (m, c)
    else
      let c := c.step loose
      if c.rest = [] then refuse .unclosedClass opened
      else
        let (last, c) ← classAtom loose c
        let span := ⟨first.span.start, last.span.stop⟩
        let first ← first.asLiteral
        let last ← last.asLiteral
        if first.char ≤ last.char then return (.range span first last, c)
        else refuse .badRange span
  | _ =>
    let m ← first.asMembers
    return (m, c)

def setOperator? : List Char → Option SetOperator
  | '&' :: '&' :: _ => some .intersection
  | '-' :: '-' :: _ => some .difference
  | '~' :: '~' :: _ => some .symmetric
  | _ => none

def classRest (loose : Bool) :
    Nat → OpenClass → List OpenClass → Cursor → Reading (Node × Cursor)
  | 0, o, _, _ => refuse .unclosedClass o.span
  | fuel + 1, o, outer, c =>
    let c := c.skip loose
    match c.rest, setOperator? c.rest with
    | [], _ => refuse .unclosedClass o.span
    | '[' :: _, _ =>
      match namedClass? c with
      | some (m, behind) => classRest loose fuel (o.push m) outer behind
      | none => do
        let (inner, behind) ← openClass loose c
        classRest loose fuel inner (o :: outer) behind
    | ']' :: _, _ =>
      let span := ⟨o.span.start, c.bump.mark⟩
      match outer with
      | [] => .ok (.charClass span o.negated o.members, c.bump)
      | next :: others =>
        classRest loose fuel (next.push (.bracketed span o.negated o.members)) others c.bump
    | _, some operator =>
      let behind := c.bump.bump
      classRest loose fuel (o.operate operator behind) outer behind
    | _, none => do
      let (m, behind) ← member loose o.span c
      classRest loose fuel (o.push m) outer behind

def charClass (loose : Bool) (c : Cursor) : Reading (Node × Cursor) := do
  let (o, inner) ← openClass loose c
  classRest loose (inner.rest.length + 1) o [] inner

end SceneGpu.Pattern
