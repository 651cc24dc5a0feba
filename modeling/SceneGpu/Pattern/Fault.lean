/-!
What can be wrong with a pattern, and where. A fault is shown with the pattern, line by line, and with
carets under the faulty stretches. The lines are numbered if there is more than one.
-/
namespace SceneGpu.Pattern

structure Mark where
  offset : Nat
  line : Nat
  column : Nat
deriving DecidableEq, Repr

namespace Mark

def first : Mark := ⟨0, 1, 1⟩

def past (m : Mark) (c : Char) : Mark :=
  if c = '\n' then ⟨m.offset + 1, m.line + 1, 1⟩ else ⟨m.offset + 1, m.line, m.column + 1⟩

end Mark

structure Span where
  start : Mark
  stop : Mark
deriving DecidableEq, Repr

namespace Span

def inOneLine (s : Span) : Bool := s.start.line = s.stop.line

/-- Earlier starts come first, and of two stretches from one place the shorter one. -/
def before (s t : Span) : Bool :=
  s.start.offset < t.start.offset ||
    (s.start.offset = t.start.offset && s.stop.offset ≤ t.stop.offset)

end Span

def maxDepth : Nat := 250

inductive Flaw where
  | backreference
  | badClassEscape
  | badCount
  | badDecimal
  | badFlag
  | badHexDigit
  | badName
  | badPropertyLetter
  | badRange
  | badScalar
  | badWordBound
  | caselessUnavailable
  | cutEscape
  | cutFlags
  | cutName
  | cutWordBound
  | danglingMinus
  | emptyCount
  | emptyHex
  | emptyName
  | invalidUtf8
  | lookaround
  | nothingToRepeat
  | perlUnavailable
  | propertyUnavailable
  | propertyValueUnavailable
  | rangeOfClass
  | repeatedFlag
  | repeatedMinus
  | repeatedName
  | tooDeep
  | unclosedClass
  | unclosedCount
  | unclosedGroup
  | unclosedWordBound
  | unicodeRefused
  | unknownEscape
  | unopenedGroup
deriving DecidableEq, Repr

def Flaw.message : Flaw → String
  | .backreference => "backreferences are not supported"
  | .badClassEscape => "invalid escape sequence found in character class"
  | .badCount => "invalid repetition count range, the start must be <= the end"
  | .badDecimal => "decimal literal invalid"
  | .badFlag => "unrecognized flag"
  | .badHexDigit => "invalid hexadecimal digit"
  | .badName => "invalid capture group character"
  | .badPropertyLetter => "invalid Unicode character class"
  | .badRange => "invalid character class range, the start must be <= the end"
  | .badScalar => "hexadecimal literal is not a Unicode scalar value"
  | .badWordBound =>
    "unrecognized special word boundary assertion, " ++
      "valid choices are: start, end, start-half or end-half"
  | .caselessUnavailable =>
    "Unicode-aware case insensitivity matching is not available " ++
      "(make sure the unicode-case feature is enabled)"
  | .cutEscape => "incomplete escape sequence, reached end of pattern prematurely"
  | .cutFlags => "expected flag but got end of regex"
  | .cutName => "unclosed capture group name"
  | .cutWordBound =>
    "found either the beginning of a special word boundary or a bounded repetition on a \\b " ++
      "with an opening brace, but no closing brace"
  | .danglingMinus => "dangling flag negation operator"
  | .emptyCount => "repetition quantifier expects a valid decimal"
  | .emptyHex => "hexadecimal literal empty"
  | .emptyName => "empty capture group name"
  | .invalidUtf8 => "pattern can match invalid UTF-8"
  | .lookaround => "look-around, including look-ahead and look-behind, is not supported"
  | .nothingToRepeat => "repetition operator missing expression"
  | .perlUnavailable =>
    "Unicode-aware Perl class not found (make sure the unicode-perl feature is enabled)"
  | .propertyUnavailable => "Unicode property not found"
  | .propertyValueUnavailable => "Unicode property value not found"
  | .rangeOfClass => "invalid range boundary, must be a literal"
  | .repeatedFlag => "duplicate flag"
  | .repeatedMinus => "flag negation operator repeated"
  | .repeatedName => "duplicate capture group name"
  | .tooDeep =>
    "exceed the maximum number of nested parentheses/brackets (" ++ toString maxDepth ++ ")"
  | .unclosedClass => "unclosed character class"
  | .unclosedCount => "unclosed counted repetition"
  | .unclosedGroup => "unclosed group"
  | .unclosedWordBound =>
    "special word boundary assertion is either unclosed or contains an invalid character"
  | .unicodeRefused => "Unicode not allowed here"
  | .unknownEscape => "unrecognized escape sequence"
  | .unopenedGroup => "unopened group"

structure Fault where
  flaw : Flaw
  span : Span
  /-- Where the thing that is repeated stands first. -/
  earlier : Option Span
deriving DecidableEq, Repr

abbrev Reading (α : Type) := Except Fault α

def refuse {α : Type} (flaw : Flaw) (span : Span) : Reading α := .error ⟨flaw, span, none⟩

def dropReturn (line : List Char) : List Char :=
  if line.getLast? = some '\r' then line.dropLast else line

def linesOf (text : List Char) : List (List Char) :=
  match (text.splitOn '\n').reverse with
  | [] => []
  | last :: broken => (broken.map dropReturn).reverse ++ if last = [] then [] else [last]

/-- How wide line numbers are. A place behind the last line break counts as a line. -/
def numberWidth (text : List Char) : Nat :=
  let count := (linesOf text).length + if text.getLast? = some '\n' then 1 else 0
  if count ≤ 1 then 0 else (toString count).length

def margin (width number : Nat) : String :=
  if width = 0 then "    "
  else
    let digits := toString number
    String.ofList (List.replicate (width - digits.length) ' ') ++ digits ++ ": "

def carets : Nat → List Span → List Char
  | _, [] => []
  | column, s :: rest =>
    let gap := s.start.column - column
    let width := max 1 (s.stop.column - s.start.column)
    List.replicate gap ' ' ++ List.replicate width '^' ++ carets (column + gap + width) rest

def underlined (width : Nat) (spans : List Span) : String :=
  match spans with
  | [] => ""
  | _ =>
    let indent := if width = 0 then 4 else width + 2
    String.ofList (List.replicate indent ' ' ++ carets 1 spans) ++ "\n"

def excerptLines (width : Nat) (spans : List Span) : Nat → List (List Char) → String
  | _, [] => ""
  | number, line :: rest =>
    margin width number ++ String.ofList line ++ "\n" ++
      underlined width (spans.filter fun s => s.start.line = number) ++
      excerptLines width spans (number + 1) rest

namespace Fault

def spans (f : Fault) : List Span :=
  match f.earlier with
  | none => [f.span]
  | some s => if s.before f.span then [s, f.span] else [f.span, s]

def crossing (s : Span) : String :=
  "on line " ++ toString s.start.line ++ " (column " ++ toString s.start.column ++
    ") through line " ++ toString s.stop.line ++ " (column " ++ toString (s.stop.column - 1) ++ ")"

def divider : String := String.ofList (List.replicate 79 '~') ++ "\n"

def shown (f : Fault) (pattern : String) : String :=
  let text := pattern.toList
  let within := f.spans.filter Span.inOneLine
  let across := f.spans.filter fun s => !s.inOneLine
  let excerpt := excerptLines (numberWidth text) within 1 (linesOf text)
  let crossings := if across = [] then "" else String.intercalate "\n" (across.map crossing) ++ "\n"
  let body := if text.contains '\n' then divider ++ excerpt ++ divider ++ crossings else excerpt
  "regex parse error:\n" ++ body ++ "error: " ++ f.flaw.message

end Fault
end SceneGpu.Pattern
