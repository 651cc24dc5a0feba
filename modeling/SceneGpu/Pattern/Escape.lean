import SceneGpu.Pattern.Cursor
import SceneGpu.Pattern.Node
import SceneGpu.Text.Basic
/-!
Reading parts without parts: what a backslash starts, the dot, the anchors, and characters that stand
for themselves.
-/
namespace SceneGpu.Pattern

def isMeta (c : Char) : Bool := "\\.+*?()|[]\x7b\x7d^$#&-~".toList.contains c

/-- Whether a backslash before the character takes away its meaning. Letters, digits and angle
brackets get one instead. -/
def isEscapable (c : Char) : Bool :=
  isMeta c || (c.toNat < 128 && !c.isAlphanum && c ≠ '<' && c ≠ '>')

def controlEscape? : Char → Option Char
  | 'a' => some '\x07'
  | 'f' => some '\x0c'
  | 't' => some '\t'
  | 'n' => some '\n'
  | 'r' => some '\r'
  | 'v' => some '\x0b'
  | _ => none

def assertionEscape? : Char → Option Assertion
  | 'A' => some .textStart
  | 'z' => some .textEnd
  | 'B' => some (.word .noEdge)
  | '<' => some (.word .start)
  | '>' => some (.word .stop)
  | _ => none

def shorthandEscape? : Char → Option (Bool × Shorthand)
  | 'd' => some (false, .digit)
  | 's' => some (false, .space)
  | 'w' => some (false, .word)
  | 'D' => some (true, .digit)
  | 'S' => some (true, .space)
  | 'W' => some (true, .word)
  | _ => none

def hexDigits? : Char → Option Nat
  | 'x' => some 2
  | 'u' => some 4
  | 'U' => some 8
  | _ => none

def rowOfHex (loose : Bool) : Nat → List Char → Cursor → Reading (List Char × Cursor)
  | 0, digits, c => .ok (digits, c)
  | n + 1, digits, c =>
    match c.rest with
    | [] => refuse .cutEscape c.here
    | x :: _ =>
      if (Text.hexValue x).isSome then rowOfHex loose n (x :: digits) (c.step loose)
      else refuse .badHexDigit c.next

def bracedHex (loose : Bool) (opening : Mark) (digits : List Char) (c : Cursor) :
    Reading (List Char × Cursor) :=
  match _h : c.rest with
  | [] => refuse .cutEscape (c.since opening)
  | x :: _ =>
    if x = '\x7d' then .ok (digits, c)
    else if (Text.hexValue x).isSome then bracedHex loose opening (x :: digits) (c.step loose)
    else refuse .badHexDigit c.next
termination_by c.rest.length
decreasing_by exact Cursor.step_length_lt ‹_›

def scalar (digits : List Char) (span : Span) : Reading Char :=
  match Text.codePoint? digits.reverse with
  | some x => .ok x
  | none => refuse .badScalar span

def hexLiteral (loose : Bool) (start : Mark) (count : Nat) (c : Cursor) :
    Reading (Atom × Cursor) := do
  let c := c.step loose
  match c.rest with
  | [] => refuse .cutEscape c.here
  | '\x7b' :: _ =>
    let opening := c.mark
    let behind := c.bump.mark
    let (digits, last) ← bracedHex loose opening [] (c.step loose)
    let c := last.step loose
    if digits = [] then refuse .emptyHex (c.since opening)
    else
      let x ← scalar digits (last.since behind)
      return (.literal ⟨c.since start, x, false⟩, c)
  | _ =>
    let behind := c.mark
    let (digits, c) ← rowOfHex loose count [] c
    let x ← scalar digits (c.since behind)
    return (.literal ⟨c.since start, x, count = 2⟩, c)

def bracedName (loose : Bool) (name : List Char) (c : Cursor) : Reading (String × Cursor) :=
  match _h : c.rest with
  | [] => refuse .cutEscape c.here
  | x :: _ =>
    if x = '\x7d' then .ok (String.ofList name.reverse, c.bump)
    else bracedName loose (x :: name) (c.step loose)
termination_by c.rest.length
decreasing_by exact Cursor.step_length_lt ‹_›

def property (loose : Bool) (start : Mark) (c : Cursor) : Reading (Atom × Cursor) := do
  let c := c.step loose
  match c.rest with
  | [] => refuse .cutEscape c.here
  | '\x7b' :: _ =>
    let (name, c) ← bracedName loose [] (c.step loose)
    return (.property (c.since start) name, c)
  | '\\' :: _ => refuse .badPropertyLetter c.next
  | x :: _ =>
    let c := c.step loose
    return (.property (c.since start) (String.singleton x), c)

def isBoundLetter (c : Char) : Bool := c.isAlpha || c = '-'

def boundLetters (loose : Bool) (letters : List Char) (c : Cursor) : List Char × Cursor :=
  match _h : c.rest with
  | [] => (letters, c)
  | x :: _ =>
    if isBoundLetter x then boundLetters loose (x :: letters) (c.step loose) else (letters, c)
termination_by c.rest.length
decreasing_by exact Cursor.step_length_lt ‹_›

def boundOfName? : String → Option WordBound
  | "start" => some .start
  | "end" => some .stop
  | "start-half" => some .startHalf
  | "end-half" => some .stopHalf
  | _ => none

/-- Reads the kind of a word bound in braces. Nothing is read if the braces hold a count instead. -/
def wordBound (loose : Bool) (start : Mark) (c : Cursor) : Reading (WordBound × Cursor) :=
  match c.rest with
  | '\x7b' :: _ =>
    let inner := c.step loose
    match inner.rest with
    | [] => refuse .cutWordBound (inner.since start)
    | x :: _ =>
      if !isBoundLetter x then .ok (.edge, c)
      else
        let (letters, last) := boundLetters loose [] inner
        if last.rest.head? ≠ some '\x7d' then refuse .unclosedWordBound (last.since c.mark)
        else match boundOfName? (String.ofList letters.reverse) with
          | some bound => .ok (bound, last.bump)
          | none => refuse .badWordBound (last.since inner.mark)
  | _ => .ok (.edge, c)

def escape (loose : Bool) (c : Cursor) : Reading (Atom × Cursor) :=
  let start := c.mark
  let c := c.bump
  match c.rest with
  | [] => refuse .cutEscape (c.since start)
  | x :: _ =>
    let behind := c.bump
    let span := behind.since start
    if x.isDigit then refuse .backreference span
    else if x = 'p' || x = 'P' then property loose start c
    else if isEscapable x then .ok (.literal ⟨span, x, false⟩, behind)
    else if x = 'b' then
      (wordBound loose start behind).map fun r => (.assertion (r.2.since start) (.word r.1), r.2)
    else match hexDigits? x, shorthandEscape? x, controlEscape? x, assertionEscape? x with
      | some count, _, _, _ => hexLiteral loose start count c
      | _, some (negated, kind), _, _ => .ok (.shorthand span negated kind, behind)
      | _, _, some y, _ => .ok (.literal ⟨span, y, false⟩, behind)
      | _, _, _, some kind => .ok (.assertion span kind, behind)
      | none, none, none, none => refuse .unknownEscape span

def atom (loose : Bool) (c : Cursor) : Reading (Atom × Cursor) :=
  match c.rest with
  | '\\' :: _ => escape loose c
  | '.' :: _ => .ok (.dot c.next, c.bump)
  | '^' :: _ => .ok (.assertion c.next .lineStart, c.bump)
  | '$' :: _ => .ok (.assertion c.next .lineEnd, c.bump)
  | x :: _ => .ok (.literal ⟨c.next, x, false⟩, c.bump)
  | [] => refuse .cutEscape c.here

end SceneGpu.Pattern
