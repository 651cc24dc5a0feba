import SceneGpu.Config.Toml.Node
import SceneGpu.Text.Basic
/-!
Strings, numbers and dates of a settings document. Each reader gives what it read and the rest, or
nothing if the text does not start that way.
-/
namespace SceneGpu.Toml

abbrev Reading (α : Type) := Option (α × List Char)

def isSpace (c : Char) : Bool := c = ' ' || c = '\t'

def skipSpace (cs : List Char) : List Char := cs.dropWhile isSpace

def lineBreak? : List Char → Option (List Char)
  | '\n' :: rest => some rest
  | '\r' :: '\n' :: rest => some rest
  | _ => none

def isPlain (except : Char) (c : Char) : Bool :=
  c ≠ except && (c = '\t' || (32 ≤ c.toNat && c.toNat ≠ 127))

def shortEscape? : Char → Option Char
  | 'b' => some '\x08'
  | 't' => some '\t'
  | 'n' => some '\n'
  | 'f' => some '\x0c'
  | 'r' => some '\r'
  | '"' => some '"'
  | '\\' => some '\\'
  | _ => none

def prepend (c : Char) (r : Reading (List Char)) : Reading (List Char) :=
  r.map fun x => (c :: x.1, x.2)

def basicText : List Char → Reading (List Char)
  | '"' :: rest => some ([], rest)
  | '\\' :: 'u' :: a :: b :: c :: d :: rest =>
    (Text.codePoint? [a, b, c, d]).bind fun x => prepend x (basicText rest)
  | '\\' :: 'U' :: a :: b :: c :: d :: e :: f :: g :: h :: rest =>
    (Text.codePoint? [a, b, c, d, e, f, g, h]).bind fun x => prepend x (basicText rest)
  | '\\' :: x :: rest => (shortEscape? x).bind fun c => prepend c (basicText rest)
  | c :: rest => if isPlain '\\' c then prepend c (basicText rest) else none
  | [] => none

/-- Where a reader of a multi-line text is: among its characters, behind a backslash that must end
the line, or in the space after such a line end. -/
inductive LineState where
  | text
  | gap
  | margin

/-- Reads behind three quotation marks up to the next three; two more may stand before them. -/
def basicLines : LineState → List Char → Reading (List Char)
  | .gap, '\n' :: rest => basicLines .margin rest
  | .gap, '\r' :: '\n' :: rest => basicLines .margin rest
  | .gap, c :: rest => if isSpace c then basicLines .gap rest else none
  | .margin, '\n' :: rest => basicLines .margin rest
  | .margin, '\r' :: '\n' :: rest => basicLines .margin rest
  | .margin, ' ' :: rest => basicLines .margin rest
  | .margin, '\t' :: rest => basicLines .margin rest
  | .gap, [] => none
  | _, '"' :: '"' :: '"' :: '"' :: '"' :: rest => some (['"', '"'], rest)
  | _, '"' :: '"' :: '"' :: '"' :: rest => some (['"'], rest)
  | _, '"' :: '"' :: '"' :: rest => some ([], rest)
  | _, '\n' :: rest => prepend '\n' (basicLines .text rest)
  | _, '\r' :: '\n' :: rest => prepend '\n' (basicLines .text rest)
  | _, '\\' :: '\n' :: rest => basicLines .margin rest
  | _, '\\' :: '\r' :: '\n' :: rest => basicLines .margin rest
  | _, '\\' :: ' ' :: rest => basicLines .gap rest
  | _, '\\' :: '\t' :: rest => basicLines .gap rest
  | _, '\\' :: 'u' :: a :: b :: c :: d :: rest =>
    (Text.codePoint? [a, b, c, d]).bind fun x => prepend x (basicLines .text rest)
  | _, '\\' :: 'U' :: a :: b :: c :: d :: e :: f :: g :: h :: rest =>
    (Text.codePoint? [a, b, c, d, e, f, g, h]).bind fun x => prepend x (basicLines .text rest)
  | _, '\\' :: x :: rest => (shortEscape? x).bind fun c => prepend c (basicLines .text rest)
  | _, c :: rest => if isPlain '\\' c then prepend c (basicLines .text rest) else none
  | _, [] => none

def literalText : List Char → Reading (List Char)
  | '\'' :: rest => some ([], rest)
  | c :: rest => if isPlain '\'' c then prepend c (literalText rest) else none
  | [] => none

def literalLines : List Char → Reading (List Char)
  | '\'' :: '\'' :: '\'' :: '\'' :: '\'' :: rest => some (['\'', '\''], rest)
  | '\'' :: '\'' :: '\'' :: '\'' :: rest => some (['\''], rest)
  | '\'' :: '\'' :: '\'' :: rest => some ([], rest)
  | '\n' :: rest => prepend '\n' (literalLines rest)
  | '\r' :: '\n' :: rest => prepend '\n' (literalLines rest)
  | '\'' :: rest => prepend '\'' (literalLines rest)
  | c :: rest => if isPlain '\'' c then prepend c (literalLines rest) else none
  | [] => none

def dropFirstBreak (cs : List Char) : List Char := (lineBreak? cs).getD cs

def string? : List Char → Reading String
  | '"' :: '"' :: '"' :: rest =>
    (basicLines .text (dropFirstBreak rest)).map fun r => (String.ofList r.1, r.2)
  | '"' :: rest => (basicText rest).map fun r => (String.ofList r.1, r.2)
  | '\'' :: '\'' :: '\'' :: rest =>
    (literalLines (dropFirstBreak rest)).map fun r => (String.ofList r.1, r.2)
  | '\'' :: rest => (literalText rest).map fun r => (String.ofList r.1, r.2)
  | _ => none

/-- Digits with single underscores between them; the value is the row of digits alone. -/
def digitsFrom (isDigit : Char → Bool) : List Char → List Char × List Char
  | '_' :: c :: rest =>
    if isDigit c then let r := digitsFrom isDigit rest; (c :: r.1, r.2) else ([], '_' :: c :: rest)
  | c :: rest =>
    if isDigit c then let r := digitsFrom isDigit rest; (c :: r.1, r.2) else ([], c :: rest)
  | [] => ([], [])

def digits? (isDigit : Char → Bool) : List Char → Reading (List Char)
  | c :: rest =>
    if isDigit c then let r := digitsFrom isDigit rest; some (c :: r.1, r.2) else none
  | [] => none

def sign : List Char → Bool × List Char
  | '+' :: rest => (false, rest)
  | '-' :: rest => (true, rest)
  | cs => (false, cs)

def unsigned? : List Char → Option (List Char × List Char)
  | '0' :: rest => some (['0'], rest)
  | cs => digits? Char.isDigit cs

def numberOf (base : Nat) (digits : List Char) : Nat :=
  digits.foldl (fun n c => n * base + (Text.hexValue c).getD 0) 0

def inRange (n : Int) : Bool := -0x8000000000000000 ≤ n && n < 0x8000000000000000

def radix? (base : Nat) (cs : List Char) : Reading Node :=
  (digits? (fun c => (Text.hexValue c).any (· < base)) cs).bind fun r =>
    let n : Int := numberOf base r.1
    if inRange n then some (.integer n, r.2) else none

def integer? : List Char → Reading Node
  | '0' :: 'x' :: rest => radix? 16 rest
  | '0' :: 'o' :: rest => radix? 8 rest
  | '0' :: 'b' :: rest => radix? 2 rest
  | cs =>
    let s := sign cs
    (unsigned? s.2).bind fun r =>
      let n : Int := if s.1 then -(numberOf 10 r.1 : Int) else numberOf 10 r.1
      if inRange n then some (.integer n, r.2) else none

def fraction? : List Char → Reading (List Char)
  | '.' :: rest => digits? Char.isDigit rest
  | _ => none

def exponent? : List Char → Reading Int
  | c :: rest =>
    if c = 'e' || c = 'E' then
      let s := sign rest
      (digits? Char.isDigit s.2).map fun r =>
        (if s.1 then -(numberOf 10 r.1 : Int) else (numberOf 10 r.1 : Int), r.2)
    else none
  | [] => none

/-- Whether `digits · 10^exponent` rounds to a finite double: it does below 2^1024 - 2^970. -/
def isFinite (digits : List Char) (exponent : Int) : Bool :=
  let significant := digits.dropWhile (· = '0')
  let limit : Nat := (1 <<< 1024) - (1 <<< 970)
  let size : Int := significant.length + exponent
  if significant = [] || size < 300 then true
  else if 320 < size then false
  else
    let n := numberOf 10 significant
    if 0 ≤ exponent then n * Nat.pow 10 exponent.toNat < limit
    else n < limit * Nat.pow 10 (-exponent).toNat

def specialFloat? (cs : List Char) : Reading Node :=
  match (sign cs).2 with
  | 'i' :: 'n' :: 'f' :: rest => some (.float, rest)
  | 'n' :: 'a' :: 'n' :: rest => some (.float, rest)
  | _ => none

def float? (cs : List Char) : Option (Node × List Char) := do
  let s := sign cs
  let (whole, rest) ← unsigned? s.2
  let (digits, places, rest, any) := match fraction? rest with
    | some (f, rest) => (whole ++ f, f.length, rest, true)
    | none => (whole, 0, rest, false)
  let (power, rest, any) := match exponent? rest with
    | some (e, rest) => (e, rest, true)
    | none => (0, rest, any)
  if any && (s.1 || isFinite digits (power - places)) then some (.float, rest) else none

def field? (count least greatest : Nat) (cs : List Char) : Option (Nat × List Char) :=
  let digits := cs.take count
  if digits.length = count then
    ((Text.readDecimal? digits).filter fun n => least ≤ n && n ≤ greatest).map fun n =>
      (n, cs.drop count)
  else none

def char? (c : Char) : List Char → Option (List Char)
  | x :: rest => if x = c then some rest else none
  | [] => none

def daysIn (year month : Nat) : Nat :=
  let leap := year % 4 = 0 && (year % 100 ≠ 0 || year % 400 = 0)
  if month = 2 then (if leap then 29 else 28)
  else if month ∈ [4, 6, 9, 11] then 30 else 31

def date? (cs : List Char) : Option (List Char) := do
  let (year, rest) ← field? 4 0 9999 cs
  let rest ← char? '-' rest
  let (month, rest) ← field? 2 1 12 rest
  let rest ← char? '-' rest
  let (_, rest) ← field? 2 1 (daysIn year month) rest
  return rest

def time? (cs : List Char) : Option (List Char) := do
  let (_, rest) ← field? 2 0 23 cs
  let rest ← char? ':' rest
  let (_, rest) ← field? 2 0 59 rest
  let rest ← char? ':' rest
  let (_, rest) ← field? 2 0 60 rest
  match rest with
  | '.' :: more =>
    let part := more.takeWhile Char.isDigit
    return if part = [] then rest else more.drop part.length
  | _ => return rest

def offset? : List Char → Option (List Char)
  | c :: rest =>
    if c = 'Z' || c = 'z' then some rest
    else if c = '+' || c = '-' then do
      let (_, rest) ← field? 2 0 23 rest
      let rest ← char? ':' rest
      let (_, rest) ← field? 2 0 59 rest
      return rest
    else none
  | [] => none

def timeOfDate (cs : List Char) : List Char :=
  match cs with
  | c :: rest =>
    if c = 'T' || c = 't' || c = ' ' then
      match time? rest with
      | some rest => (offset? rest).getD rest
      | none => cs
    else cs
  | [] => cs

def moment? (cs : List Char) : Reading Node :=
  match date? cs with
  | some rest => some (.date, timeOfDate rest)
  | none => (time? cs).map fun rest => (.date, rest)

def number? (cs : List Char) : Reading Node :=
  ((moment? cs).or (float? cs)).or ((specialFloat? cs).or (integer? cs))

def boolean? : List Char → Reading Node
  | 't' :: 'r' :: 'u' :: 'e' :: rest => some (.boolean true, rest)
  | 'f' :: 'a' :: 'l' :: 's' :: 'e' :: rest => some (.boolean false, rest)
  | _ => none

def scalar? (cs : List Char) : Reading Node :=
  ((string? cs).map fun r => (Node.string r.1, r.2)).or ((boolean? cs).or (number? cs))

end SceneGpu.Toml
