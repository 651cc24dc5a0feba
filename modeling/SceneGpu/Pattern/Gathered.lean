import SceneGpu.Pattern.Charset
import SceneGpu.Pattern.Fault
import SceneGpu.Pattern.Node
/-!
What the members of a class stand for. Two alphabets are known: all characters, and the ASCII part of
the bytes. The cases of letters, and the classes that hang on a table of Unicode, are known for ASCII
only.
-/
namespace SceneGpu.Pattern

structure Flags where
  caseless : Bool
  lines : Bool
  dotAll : Bool
  unicode : Bool
  returns : Bool
deriving DecidableEq, Repr

namespace Flags

def first : Flags := ⟨false, false, false, true, false⟩

def set (f : Flags) : Flag × Bool → Flags
  | (.caseless, b) => { f with caseless := b }
  | (.lines, b) => { f with lines := b }
  | (.dotAll, b) => { f with dotAll := b }
  | (.unicode, b) => { f with unicode := b }
  | (.returns, b) => { f with returns := b }
  | (.lazy, _) => f
  | (.loose, _) => f

def change (f : Flags) (c : FlagChange) : Flags := c.foldl set f

end Flags

def ClassName.ranges : ClassName → List (Char × Char)
  | .alnum => [('0', '9'), ('A', 'Z'), ('a', 'z')]
  | .alpha => [('A', 'Z'), ('a', 'z')]
  | .ascii => [('\x00', '\x7f')]
  | .blank => [('\t', '\t'), (' ', ' ')]
  | .cntrl => [('\x00', '\x1f'), ('\x7f', '\x7f')]
  | .digit => [('0', '9')]
  | .graph => [('!', '~')]
  | .lower => [('a', 'z')]
  | .print => [(' ', '~')]
  | .punct => [('!', '/'), (':', '@'), ('[', '\x60'), ('\x7b', '~')]
  | .space => [('\t', '\r'), (' ', ' ')]
  | .upper => [('A', 'Z')]
  | .word => [('0', '9'), ('A', 'Z'), ('_', '_'), ('a', 'z')]
  | .xdigit => [('0', '9'), ('A', 'F'), ('a', 'f')]

def ClassName.set (n : ClassName) : Charset := .ofChars n.ranges

def Shorthand.className : Shorthand → ClassName
  | .digit => .digit
  | .space => .space
  | .word => .word

structure Gathered where
  set : Charset
  /-- Known to hold each letter in both cases or in none. -/
  settled : Bool
deriving DecidableEq, Repr

namespace Gathered

def nothing : Gathered := ⟨.empty, true⟩

def ofSet (s : Charset) : Gathered := ⟨s, s.isEmpty⟩

def push (g : Gathered) (s : Charset) : Gathered := ⟨g.set.union s, false⟩

def union (g h : Gathered) : Gathered :=
  if h.set.isEmpty || g.set = h.set then g else ⟨g.set.union h.set, g.settled && h.settled⟩

def inter (g h : Gathered) : Gathered :=
  if g.set.isEmpty then g
  else if h.set.isEmpty then nothing
  else ⟨g.set.inter h.set, g.settled && h.settled⟩

def diff (g h : Gathered) : Gathered :=
  if g.set.isEmpty || h.set.isEmpty then g else ⟨g.set.diff h.set, g.settled && h.settled⟩

def symmDiff (g h : Gathered) : Gathered := (g.union h).diff (g.inter h)

def combine (operator : SetOperator) (g h : Gathered) : Gathered :=
  match operator with
  | .intersection => g.inter h
  | .difference => g.diff h
  | .symmetric => g.symmDiff h

def compl (g : Gathered) : Gathered := ⟨g.set.compl, g.settled || g.set.isEmpty⟩

def fold (f : Flags) (span : Span) (g : Gathered) : Reading Gathered :=
  if !f.caseless || g.settled then .ok g
  else if !f.unicode then .ok ⟨g.set.foldAscii, true⟩
  else if g.set.isEmpty then .ok ⟨g.set, true⟩
  else refuse .caselessUnavailable span

/-- Ends a class. What is left out of a class of bytes would hold bytes that are no characters. -/
def close (f : Flags) (span : Span) (negated : Bool) (g : Gathered) : Reading Gathered := do
  let g ← g.fold f span
  if !negated then return g
  else if f.unicode then return g.compl
  else refuse .invalidUtf8 span

end Gathered

def Literal.checkByte (l : Literal) : Reading Char :=
  if l.char.toNat < 128 then .ok l.char
  else refuse (if l.asByte then .invalidUtf8 else .unicodeRefused) l.span

def Literal.member (f : Flags) (l : Literal) : Reading Char :=
  if f.unicode then .ok l.char else l.checkByte

def shorthandSet (f : Flags) (span : Span) (negated : Bool) (kind : Shorthand) : Reading Charset :=
  if f.unicode then refuse .perlUnavailable span
  else if negated then refuse .invalidUtf8 span
  else .ok kind.className.set

def dropIs : List Char → List Char
  | i :: s :: rest => if i.toLower = 'i' && s.toLower = 's' then rest else i :: s :: rest
  | cs => cs

/-- The name of a property without what does not matter in it: a leading "is", blanks, hyphens,
underscores, and the case of letters. -/
def looseName (name : String) : String :=
  let kept := (dropIs name.toList).filter fun c =>
    c.toNat < 128 && c ≠ ' ' && c ≠ '_' && c ≠ '-'
  String.ofList (kept.map Char.toLower)

/-- No table of properties is at hand. Three short names are taken for values of a property. -/
def propertyFault (f : Flags) (name : String) : Flaw :=
  if !f.unicode then .unicodeRefused
  else if ["cf", "sc", "lc"].contains (looseName name) then .propertyValueUnavailable
  else .propertyUnavailable

mutual

def gather (f : Flags) : Members → Gathered → Reading Gathered
  | .nothing _, g => .ok g
  | .literal l, g => (l.member f).map fun c => g.push (.between c c)
  | .range _ first last, g => do
    let a ← first.member f
    let b ← last.member f
    return g.push (.between a b)
  | .named span negated name, g =>
    ((Gathered.ofSet name.set).close f span negated).map g.union
  | .shorthand span negated kind, g =>
    (shorthandSet f span negated kind).map fun s => g.union (.ofSet s)
  | .property span name, _ => refuse (propertyFault f name) span
  | .bracketed span negated inner, g => do
    let h ← gather f inner .nothing
    let h ← h.close f span negated
    return g.union h
  | .union _ items, g => gatherAll f items g
  | .combined _ operator left right, g => do
    let l ← gather f left .nothing
    let r ← gather f right .nothing
    let r ← r.fold f right.span
    let l ← l.fold f left.span
    return g.union (l.combine operator r)

def gatherAll (f : Flags) : List Members → Gathered → Reading Gathered
  | [], g => .ok g
  | m :: rest, g => do
    let g ← gather f m g
    gatherAll f rest g

end

end SceneGpu.Pattern
