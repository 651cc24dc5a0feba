/-!
The tree of a settings document. A table remembers how it came about, since that decides what may
still be added to it.
-/
namespace SceneGpu.Toml

inductive TableKind where
  /-- The whole document, or a table with a header of its own. -/
  | header
  /-- Named only as a part of a longer header. -/
  | implied
  /-- Named only as a part of a dotted key. -/
  | dotted
  | inline
deriving DecidableEq, Repr

inductive Node where
  | string (text : String)
  | integer (n : Int)
  | float
  | boolean (b : Bool)
  | date
  | array (items : List Node)
  | table (kind : TableKind) (entries : List (String × Node))
  /-- Tables under one header in double brackets. -/
  | tables (items : List Node)
deriving Repr

abbrev Entries := List (String × Node)

def Entries.get? (es : Entries) (key : String) : Option Node := (es.find? (·.1 = key)).map (·.2)

def Entries.put (es : Entries) (key : String) (n : Node) : Entries :=
  match es with
  | [] => [(key, n)]
  | e :: rest => if e.1 = key then (key, n) :: rest else e :: Entries.put rest key n

def Entries.drop (es : Entries) (key : String) : Entries := es.filter (·.1 ≠ key)

def changeLast (f : Node → Option Node) : List Node → Option (List Node)
  | [] => none
  | [n] => (f n).map fun m => [m]
  | n :: rest => (changeLast f rest).map (n :: ·)

/-- Whether a path may lead through a table. A dotted key only enters tables that have no header. -/
def TableKind.admits (viaDotted : Bool) : TableKind → Bool
  | .header => !viaDotted
  | .implied => true
  | .dotted => true
  | .inline => false

/-- Changes the node that a path leads to and makes missing tables on the way. A path through a list
of tables enters its last one. -/
def Node.change (viaDotted : Bool) (f : Node → Option Node) : List String → Node → Option Node
  | [], n => f n
  | key :: rest, .table kind es =>
    let deeper := Node.change viaDotted f rest
    let made := .table (if viaDotted then .dotted else .implied) []
    let child := match Entries.get? es key with
      | none => deeper made
      | some (.table k inner) => if k.admits viaDotted then deeper (.table k inner) else none
      | some (.tables items) => (changeLast deeper items).map .tables
      | some _ => none
    child.map fun c => .table kind (Entries.put es key c)
  | _ :: _, _ => none

def Node.add (viaDotted : Bool) (key : String) (value : Node) : Node → Option Node
  | .table kind es =>
    if decide (kind = .dotted) != viaDotted then none
    else if (Entries.get? es key).isSome then none
    else some (.table kind (es ++ [(key, value)]))
  | _ => none

def Node.assign (n : Node) (path : List String) (key : String) (value : Node) : Option Node :=
  n.change true (Node.add (!path.isEmpty) key value) path

end SceneGpu.Toml
