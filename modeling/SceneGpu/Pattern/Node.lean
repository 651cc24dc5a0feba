import SceneGpu.Pattern.Fault
/-!
The tree of a pattern. Each part knows the stretch of text that it was read from.
-/
namespace SceneGpu.Pattern

inductive Flag where
  /-- Letters stand for both of their cases. -/
  | caseless
  /-- Line bounds hold at each line, not only at the ends of the text. -/
  | lines
  /-- The dot stands for line breaks too. -/
  | dotAll
  /-- Repetitions prefer few rounds. -/
  | lazy
  | unicode
  /-- A line ends with a carriage return, a line feed, or both in this order. -/
  | returns
  /-- Blanks and comments are passed over. -/
  | loose
deriving DecidableEq, Repr

abbrev FlagChange := List (Flag × Bool)

def FlagChange.get? (change : FlagChange) (flag : Flag) : Option Bool :=
  (change.find? (·.1 = flag)).map (·.2)

inductive Shorthand where
  | digit
  | space
  | word
deriving DecidableEq, Repr

inductive WordBound where
  | edge
  | noEdge
  | start
  | stop
  | startHalf
  | stopHalf
deriving DecidableEq, Repr

inductive Assertion where
  | lineStart
  | lineEnd
  | textStart
  | textEnd
  | word (bound : WordBound)
deriving DecidableEq, Repr

structure Literal where
  span : Span
  char : Char
  /-- Written as the two hexadecimal digits of a byte. -/
  asByte : Bool
deriving DecidableEq, Repr

inductive Atom where
  | literal (l : Literal)
  | dot (span : Span)
  | assertion (span : Span) (kind : Assertion)
  | shorthand (span : Span) (negated : Bool) (kind : Shorthand)
  /-- A Unicode property, by name. -/
  | property (span : Span) (name : String)
deriving DecidableEq, Repr

def Atom.span : Atom → Span
  | .literal l => l.span
  | .dot s => s
  | .assertion s _ => s
  | .shorthand s _ _ => s
  | .property s _ => s

inductive ClassName where
  | alnum
  | alpha
  | ascii
  | blank
  | cntrl
  | digit
  | graph
  | lower
  | print
  | punct
  | space
  | upper
  | word
  | xdigit
deriving DecidableEq, Repr

def ClassName.ofText? : String → Option ClassName
  | "alnum" => some .alnum
  | "alpha" => some .alpha
  | "ascii" => some .ascii
  | "blank" => some .blank
  | "cntrl" => some .cntrl
  | "digit" => some .digit
  | "graph" => some .graph
  | "lower" => some .lower
  | "print" => some .print
  | "punct" => some .punct
  | "space" => some .space
  | "upper" => some .upper
  | "word" => some .word
  | "xdigit" => some .xdigit
  | _ => none

inductive SetOperator where
  | intersection
  | difference
  | symmetric
deriving DecidableEq, Repr

inductive Members where
  | nothing (span : Span)
  | literal (l : Literal)
  | range (span : Span) (first last : Literal)
  | named (span : Span) (negated : Bool) (name : ClassName)
  | shorthand (span : Span) (negated : Bool) (kind : Shorthand)
  | property (span : Span) (name : String)
  | bracketed (span : Span) (negated : Bool) (inner : Members)
  | union (span : Span) (items : List Members)
  | combined (span : Span) (operator : SetOperator) (left right : Members)

def Members.span : Members → Span
  | .nothing s => s
  | .literal l => l.span
  | .range s _ _ => s
  | .named s _ _ => s
  | .shorthand s _ _ => s
  | .property s _ => s
  | .bracketed s _ _ => s
  | .union s _ => s
  | .combined s _ _ _ => s

inductive GroupKind where
  | capturing
  /-- Flags that hold inside the group. -/
  | plain (change : FlagChange)
deriving DecidableEq, Repr

inductive Node where
  | empty (span : Span)
  /-- Flags that hold up to the end of the group around them. -/
  | flags (span : Span) (change : FlagChange)
  | atom (a : Atom)
  | charClass (span : Span) (negated : Bool) (members : Members)
  | repetition (span : Span) (least : Nat) (most : Option Nat) (sub : Node)
  | group (span : Span) (kind : GroupKind) (sub : Node)
  | alternation (span : Span) (branches : List Node)
  | concatenation (span : Span) (parts : List Node)

def Node.span : Node → Span
  | .empty s => s
  | .flags s _ => s
  | .atom a => a.span
  | .charClass s _ _ => s
  | .repetition s _ _ _ => s
  | .group s _ _ => s
  | .alternation s _ => s
  | .concatenation s _ => s

end SceneGpu.Pattern
