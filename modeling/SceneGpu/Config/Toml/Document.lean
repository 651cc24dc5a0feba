import SceneGpu.Config.Toml.Scalar
/-!
Reading a settings document: arrays and inline tables, keys, headers and lines.
-/
namespace SceneGpu.Toml

def maxDepth : Nat := 80

def isBare (c : Char) : Bool := c.isAlphanum || c = '-' || c = '_'

def simpleKey? : List Char → Reading String
  | '"' :: rest => (basicText rest).map fun r => (String.ofList r.1, r.2)
  | '\'' :: rest => (literalText rest).map fun r => (String.ofList r.1, r.2)
  | cs =>
    match cs.takeWhile isBare with
    | [] => none
    | name => some (String.ofList name, cs.dropWhile isBare)

/-- The parts of a dotted key, with space around each; `fuel` bounds their number. -/
def keyParts? : Nat → List Char → Reading (List String)
  | 0, _ => none
  | fuel + 1, cs =>
    match simpleKey? (skipSpace cs) with
    | none => none
    | some (part, rest) =>
      match skipSpace rest with
      | '.' :: more => (keyParts? fuel more).map fun r => (part :: r.1, r.2)
      | rest => some ([part], rest)

def key? (cs : List Char) : Option (List String × List Char) := keyParts? (maxDepth - 1) cs

def comment? : List Char → Option (List Char)
  | '#' :: rest =>
    some (rest.dropWhile (isPlain '\n'))
  | _ => none

def lineEnd? (cs : List Char) : Option (List Char) :=
  if cs = [] then some [] else lineBreak? cs

def trailing? (cs : List Char) : Option (List Char) :=
  let cs := skipSpace cs
  lineEnd? ((comment? cs).getD cs)

def skipLines : Nat → List Char → Option (List Char)
  | 0, cs => some cs
  | fuel + 1, cs =>
    let cs := skipSpace cs
    match lineBreak? cs with
    | some rest => skipLines fuel rest
    | none =>
      match comment? cs with
      | none => some cs
      | some rest => (lineEnd? rest).bind (skipLines fuel)

def split? (key : List String) : Option (List String × String) :=
  key.getLast?.map fun last => (key.dropLast, last)

mutual

def value? : Nat → Nat → List Char → Option (Node × List Char)
  | 0, _, _ => none
  | fuel + 1, depth, cs =>
    match cs with
    | '[' :: rest => if maxDepth ≤ depth + 1 then none else items? fuel (depth + 1) [] rest
    | '\x7b' :: rest =>
      if maxDepth ≤ depth + 1 then none
      else match skipSpace rest with
        | '\x7d' :: rest => some (.table .inline [], rest)
        | rest => pairs? fuel (depth + 1) (.table .inline []) rest
    | cs => scalar? cs

def items? : Nat → Nat → List Node → List Char → Reading Node
  | 0, _, _, _ => none
  | fuel + 1, depth, before, cs =>
    match skipLines cs.length cs with
    | none => none
    | some (']' :: rest) => some (.array before.reverse, rest)
    | some cs =>
      match value? fuel depth cs with
      | none => none
      | some (n, rest) =>
        match skipLines rest.length rest with
        | some (',' :: rest) => items? fuel depth (n :: before) rest
        | some (']' :: rest) => some (.array (n :: before).reverse, rest)
        | _ => none

def pairs? : Nat → Nat → Node → List Char → Option (Node × List Char)
  | 0, _, _, _ => none
  | fuel + 1, depth, table, cs => do
    let (key, rest) ← key? cs
    let (path, last) ← split? key
    let rest ← char? '=' rest
    let (n, rest) ← value? fuel depth (skipSpace rest)
    let table ← table.assign path last n
    match skipSpace rest with
    | ',' :: rest => pairs? fuel depth table rest
    | '\x7d' :: rest => some (table, rest)
    | _ => none

end

/-- A document as far as it is read: the finished part, and the table under the latest header, which
is put at its path when the next header comes. -/
structure Draft where
  root : Node
  current : Node
  path : List String
  isItem : Bool

namespace Draft

def empty : Draft := ⟨.table .header [], .table .header [], [], false⟩

def placeTable (table : Node) (key : String) : Node → Option Node
  | .table kind es => some (.table kind (Entries.put es key table))
  | _ => none

def placeItem (table : Node) (key : String) : Node → Option Node
  | .table kind es =>
    match Entries.get? es key with
    | none => some (.table kind (Entries.put es key (.tables [table])))
    | some (.tables items) => some (.table kind (Entries.put es key (.tables (items ++ [table]))))
    | some _ => none
  | _ => none

def finish (d : Draft) : Option Node :=
  match split? d.path with
  | none => some d.current
  | some (path, key) =>
    let place := if d.isItem then placeItem d.current key else placeTable d.current key
    d.root.change false place path

/-- A header may reopen a table that was only named as a part of longer headers; the table keeps
what it has. -/
def open? (key : String) : Node → Option (Node × List (String × Node))
  | .table kind es =>
    match Entries.get? es key with
    | none => some (.table kind es, [])
    | some (.table .implied inner) => some (.table kind (Entries.drop es key), inner)
    | some _ => none
  | _ => none

def entriesAt : List String → Node → List (String × Node)
  | [], .table _ es => es
  | key :: rest, .table _ es =>
    match Entries.get? es key with
    | some (.tables items) => (items.getLast?.map (entriesAt rest)).getD []
    | some n => entriesAt rest n
    | none => []
  | _, _ => []

def header (d : Draft) (full : List String) : Option Draft := do
  let root ← d.finish
  let (path, key) ← split? full
  let opened ← root.change false (fun n => (open? key n).map (·.1)) path
  let kept := entriesAt full root
  return ⟨opened, .table .header kept, full, false⟩

def itemHeader (d : Draft) (full : List String) : Option Draft := do
  let root ← d.finish
  let (path, key) ← split? full
  let check : Node → Option Node
    | .table kind es =>
      match Entries.get? es key with
      | none => some (.table kind es)
      | some (.tables _) => some (.table kind es)
      | some _ => none
    | _ => none
  let root ← root.change false check path
  return ⟨root, .table .header [], full, true⟩

def assign (d : Draft) (key : List String) (value : Node) : Option Draft := do
  let (path, last) ← split? key
  let current ← d.current.assign path last value
  return { d with current }

end Draft

def lines? : Nat → Draft → List Char → Option Node
  | 0, _, _ => none
  | fuel + 1, d, cs =>
    match skipSpace cs with
    | [] => d.finish
    | '#' :: rest => ((comment? ('#' :: rest)).bind lineEnd?).bind (lines? fuel d)
    | '\n' :: rest => lines? fuel d rest
    | '\r' :: '\n' :: rest => lines? fuel d rest
    | '[' :: '[' :: rest => do
      let (key, rest) ← key? rest
      let rest ← char? ']' rest
      let rest ← char? ']' rest
      let rest ← trailing? rest
      lines? fuel (← d.itemHeader key) rest
    | '[' :: rest => do
      let (key, rest) ← key? rest
      let rest ← char? ']' rest
      let rest ← trailing? rest
      lines? fuel (← d.header key) rest
    | cs => do
      let (key, rest) ← key? cs
      let rest ← char? '=' rest
      let (n, rest) ← value? (rest.length + 1) 0 (skipSpace rest)
      let rest ← trailing? rest
      lines? fuel (← d.assign key n) rest

def document? (text : String) : Option Node :=
  let cs := match text.toList with
    | '\uFEFF' :: rest => rest
    | cs => cs
  lines? (cs.length + 1) .empty cs

end SceneGpu.Toml
