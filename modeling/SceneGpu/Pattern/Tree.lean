import SceneGpu.Pattern.Bracket
import SceneGpu.Pattern.Cursor
import SceneGpu.Pattern.Group
/-!
Reading a whole pattern. What has been read is kept per open group: finished branches, and the parts
of the branch at hand.
-/
namespace SceneGpu.Pattern

structure Body where
  start : Mark
  branches : List Node
  branchStart : Mark
  parts : List Node

namespace Body

def startingAt (m : Mark) : Body := ⟨m, [], m, []⟩

def push (b : Body) (n : Node) : Body := { b with parts := n :: b.parts }

def branch (b : Body) (m : Mark) : Node :=
  match b.parts with
  | [] => .empty ⟨b.branchStart, m⟩
  | [n] => n
  | parts => .concatenation ⟨b.branchStart, m⟩ parts.reverse

def bar (b : Body) (m behind : Mark) : Body :=
  { b with branches := b.branch m :: b.branches, branchStart := behind, parts := [] }

def node (b : Body) (m : Mark) : Node :=
  match b.branches with
  | [] => b.branch m
  | branches => .alternation ⟨b.start, m⟩ (b.branch m :: branches).reverse

/-- Takes off the last part, which is to be repeated. Flags cannot be. -/
def takeLast? (b : Body) : Option (Node × Body) :=
  match b.parts with
  | [] => none
  | .empty _ :: _ => none
  | .flags _ _ :: _ => none
  | n :: rest => some (n, { b with parts := rest })

end Body

structure OpenGroup where
  span : Span
  kind : GroupKind
  outer : Body
  /-- Whether the pattern is loose outside. -/
  loose : Bool

structure Reader where
  cursor : Cursor
  loose : Bool
  body : Body
  /-- The groups around this place, innermost first. -/
  opened : List OpenGroup
  names : Names

namespace Reader

def ofText (text : String) : Reader :=
  ⟨Cursor.ofText text, false, Body.startingAt .first, [], []⟩

def push (r : Reader) (n : Node) (behind : Cursor) : Reader :=
  { r with body := r.body.push n, cursor := behind }

def openParen (r : Reader) : Reading Reader := do
  let span := r.cursor.next
  let (o, names, behind) ← opening r.loose r.names r.cursor
  match o with
  | .flags change =>
    return { r.push (.flags (behind.since span.start) change) behind with
      loose := (change.get? .loose).getD r.loose }
  | .group kind =>
    let inside := match kind with
      | .capturing => r.loose
      | .plain change => (change.get? .loose).getD r.loose
    let g : OpenGroup := ⟨span, kind, r.body, r.loose⟩
    return ⟨behind, inside, Body.startingAt behind.mark, g :: r.opened, names⟩

def closeParen (r : Reader) : Reading Reader :=
  match r.opened with
  | [] => refuse .unopenedGroup r.cursor.next
  | g :: outer =>
    let behind := r.cursor.bump
    let group := .group ⟨g.span.start, behind.mark⟩ g.kind (r.body.node r.cursor.mark)
    .ok ⟨behind, g.loose, g.outer.push group, outer, r.names⟩

def repeated (r : Reader) (read : Cursor → Reading (Count × Cursor)) : Reading Reader :=
  match r.body.takeLast? with
  | none => refuse .nothingToRepeat r.cursor.here
  | some (n, body) => do
    let (count, behind) ← read r.cursor
    let span := ⟨n.span.start, behind.mark⟩
    return { r with
      body := body.push (.repetition span count.least count.most n), cursor := behind }

def step (r : Reader) (x : Char) : Reading Reader :=
  if x = '(' then r.openParen
  else if x = ')' then r.closeParen
  else if x = '|' then
    let behind := r.cursor.bump
    .ok { r with body := r.body.bar r.cursor.mark behind.mark, cursor := behind }
  else if x = '[' then (charClass r.loose r.cursor).map fun n => r.push n.1 n.2
  else if x = '\x7b' then r.repeated (bracedCount r.loose)
  else match countOfSign? x with
    | some count => r.repeated fun c => .ok (count, afterLazy c.bump)
    | none => (atom r.loose r.cursor).map fun a => r.push (.atom a.1) a.2

def finish (r : Reader) : Reading Node :=
  match r.opened with
  | [] => .ok (r.body.node r.cursor.mark)
  | g :: _ => refuse .unclosedGroup g.span

/-- Reads on; each sign takes at least one character, and `fuel` bounds their number. -/
def run : Nat → Reader → Reading Node
  | 0, r => r.finish
  | fuel + 1, r =>
    let r := { r with cursor := r.cursor.skip r.loose }
    match r.cursor.rest with
    | [] => r.finish
    | x :: _ => do
      let r ← r.step x
      run fuel r

end Reader

def Node.ofText (text : String) : Reading Node := (Reader.ofText text).run (text.length + 1)

end SceneGpu.Pattern
