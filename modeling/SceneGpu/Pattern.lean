import SceneGpu.Pattern.Expression
import SceneGpu.Pattern.Fault
import SceneGpu.Pattern.Gathered
import SceneGpu.Pattern.Node
import SceneGpu.Pattern.Size
import SceneGpu.Pattern.Tree
/-!
Patterns that are looked for in a text. A pattern is refused for a fault in its text, for how deeply its
parts nest, for its size, or for a condition on words, since what makes up a Unicode word is not decided
here. Flags hold from where they stand up to the end of the group around them, also across bars.
-/
namespace SceneGpu.Pattern

mutual

def Members.tooDeep? : Nat → Members → Option Span
  | level, .bracketed span _ inner =>
    if maxDepth ≤ level then some span else inner.tooDeep? (level + 1)
  | level, .union span items =>
    if maxDepth ≤ level then some span else Members.anyTooDeep? (level + 1) items
  | level, .combined span _ left right =>
    if maxDepth ≤ level then some span
    else (left.tooDeep? (level + 1)).or (right.tooDeep? (level + 1))
  | _, _ => none

def Members.anyTooDeep? : Nat → List Members → Option Span
  | _, [] => none
  | level, m :: rest => (m.tooDeep? level).or (Members.anyTooDeep? level rest)

end

mutual

def Node.tooDeep? : Nat → Node → Option Span
  | level, .charClass span _ members =>
    if maxDepth ≤ level then some span else members.tooDeep? (level + 1)
  | level, .repetition span _ _ sub =>
    if maxDepth ≤ level then some span else sub.tooDeep? (level + 1)
  | level, .group span _ sub =>
    if maxDepth ≤ level then some span else sub.tooDeep? (level + 1)
  | level, .alternation span branches =>
    if maxDepth ≤ level then some span else Node.anyTooDeep? (level + 1) branches
  | level, .concatenation span parts =>
    if maxDepth ≤ level then some span else Node.anyTooDeep? (level + 1) parts
  | _, _ => none

def Node.anyTooDeep? : Nat → List Node → Option Span
  | _, [] => none
  | level, n :: rest => (n.tooDeep? level).or (Node.anyTooDeep? level rest)

end

def Node.checkDepth (n : Node) : Reading Node :=
  match n.tooDeep? 0 with
  | none => .ok n
  | some span => refuse .tooDeep span

def Literal.meaning (f : Flags) (l : Literal) : Reading Expression :=
  if !f.unicode && l.asByte && 128 ≤ l.char.toNat then refuse .invalidUtf8 l.span
  else if f.caseless && f.unicode then refuse .caselessUnavailable l.span
  else
    let s := Charset.between l.char l.char
    .ok (.one (if f.caseless then s.foldAscii else s))

def lineBreaks (f : Flags) : Charset :=
  if f.dotAll then .empty
  else if f.returns then .ofChars [('\n', '\n'), ('\r', '\r')]
  else .between '\n' '\n'

def Assertion.look (f : Flags) : Assertion → Look
  | .lineStart => if !f.lines then .textStart else if f.returns then .returnLineStart else .lineStart
  | .lineEnd => if !f.lines then .textEnd else if f.returns then .returnLineEnd else .lineEnd
  | .textStart => .textStart
  | .textEnd => .textEnd
  | .word bound => .word (if f.unicode then .unicode else .ascii) bound

def Atom.meaning (f : Flags) : Atom → Reading Expression
  | .literal l => l.meaning f
  | .dot span => if f.unicode then .ok (.one (lineBreaks f).compl) else refuse .invalidUtf8 span
  | .assertion _ kind => .ok (.look (kind.look f))
  | .shorthand span negated kind => (shorthandSet f span negated kind).map .one
  | .property span name => refuse (propertyFault f name) span

mutual

/-- What a part means, and the flags that hold behind it. -/
def Node.meaning : Node → Flags → Reading (Expression × Flags)
  | .empty _, f => .ok (.empty, f)
  | .flags _ change, f => .ok (.empty, f.change change)
  | .atom a, f => (a.meaning f).map fun e => (e, f)
  | .charClass span negated members, f => do
    let g ← gather f members .nothing
    let g ← g.close f span negated
    return (.one g.set, f)
  | .repetition _ least most sub, f => do
    let (e, f) ← sub.meaning f
    return (.ofCount least most e, f)
  | .group _ kind sub, f => do
    match kind with
    | .capturing =>
      let (e, _) ← sub.meaning f
      return (.capture e, f)
    | .plain change =>
      let (e, _) ← sub.meaning (f.change change)
      return (e, f)
  | .alternation _ branches, f => do
    let (es, f) ← Node.meanings branches f
    return (.ofBranches es, f)
  | .concatenation _ parts, f => do
    let (es, f) ← Node.meanings parts f
    return (.ofParts es, f)

def Node.meanings : List Node → Flags → Reading (List Expression × Flags)
  | [], f => .ok ([], f)
  | n :: rest, f => do
    let (e, f) ← n.meaning f
    let (es, f) ← Node.meanings rest f
    return (e :: es, f)

end

def Expression.read (text : String) : Reading Expression := do
  let n ← Node.ofText text
  let n ← n.checkDepth
  let (e, _) ← n.meaning .first
  return e

def Expression.ofText (text : String) : Except String Expression :=
  match Expression.read text with
  | .error f => .error (f.shown text)
  | .ok e =>
    if !e.fits then
      .error ("Compiled regex exceeds size limit of " ++ toString maxSize ++ " bytes.")
    else if e.hasUnicodeWords then .error "error building NFA"
    else .ok e

end SceneGpu.Pattern
