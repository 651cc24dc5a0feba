import SceneGpu.Pattern
import SceneGpu.Report.Journal
import SceneGpu.Text.Basic
/-!
Which records are shown. A filter tells the most that is heard; a directive sets the filter of the
parts whose name starts with a text, and of the directives that fit a part the longest name decides.
-/
namespace SceneGpu

abbrev LogFilter := Option Level

namespace LogFilter

def name (f : LogFilter) : String := (f.map Level.name).getD "OFF"

def admits (f : LogFilter) (l : Level) : Bool := f.any fun most => l.depth ≤ most.depth

def ofText? (text : String) : Option LogFilter :=
  match Text.asciiLower text with
  | "off" => some none
  | "error" => some (some .error)
  | "warn" => some (some .warn)
  | "info" => some (some .info)
  | "debug" => some (some .debug)
  | "trace" => some (some .trace)
  | _ => none

end LogFilter

structure Directive where
  name : Option String
  filter : LogFilter
deriving DecidableEq, Repr

namespace Directive

/-- A word alone is a level, or a name that is heard in full. What cannot be read is given back. -/
def ofText (text : String) : Except String Directive :=
  match text.splitOn "=" with
  | [word] =>
    match LogFilter.ofText? word with
    | some f => .ok ⟨none, f⟩
    | none => .ok ⟨some word, some .trace⟩
  | [name, word] =>
    if Text.trim word = "" then .ok ⟨some name, some .trace⟩
    else match LogFilter.ofText? (Text.trim word) with
      | some f => .ok ⟨some name, f⟩
      | none => .error (Text.trim word)
  | _ => .error text

def covers (d : Directive) (target : String) : Bool :=
  d.name.all fun n => n.toList.isPrefixOf target.toList

def weight (d : Directive) : Nat := (d.name.map String.length).getD 0

end Directive

structure Directives where
  list : List Directive
  pattern : Option Pattern.Expression
  /-- What could not be read, and why. -/
  rejected : List String
deriving DecidableEq, Repr

namespace Directives

def empty : Directives := ⟨[], none, []⟩

def reject (ds : Directives) (text : String) : Directives :=
  { ds with rejected := ds.rejected ++ [text] }

def rejectList (ds : Directives) (text : String) : Directives :=
  ds.reject ("invalid logging spec " ++ text)

def insert (d : Directive) : List Directive → List Directive
  | [] => [d]
  | e :: rest => if e.name = d.name then d :: rest else e :: insert d rest

def add (ds : Directives) (text : String) : Directives :=
  if text = "" then ds
  else match Directive.ofText text with
    | .ok d => { ds with list := insert d ds.list }
    | .error rejected => ds.rejectList ("'" ++ rejected ++ "'")

def addAll (ds : Directives) (text : String) : Directives :=
  ((text.splitOn ",").map Text.trim).foldl add ds

def addPattern (ds : Directives) (text : String) : Directives :=
  match Pattern.Expression.ofText text with
  | .ok e => { ds with pattern := some e }
  | .error why => ds.reject ("invalid regex filter - " ++ why)

def ofText (text : String) : Directives :=
  match text.splitOn "/" with
  | [list] => empty.addAll list
  | [list, pattern] => (empty.addAll list).addPattern pattern
  | _ => empty.rejectList ("'" ++ text ++ "' (too many '/'s)")

/-- Of two fitting directives the longer one decides, and the later one among equals. -/
def heavier (best : Option Directive) (d : Directive) : Option Directive :=
  if best.all fun b => b.weight ≤ d.weight then some d else best

def filterOf (ds : Directives) (target : String) : LogFilter :=
  if ds.list.isEmpty then some .error
  else (((ds.list.filter (·.covers target)).foldl heavier none).map (·.filter)).getD none

def shows (ds : Directives) (r : Record) : Bool :=
  (ds.filterOf r.topic.target).admits r.level && ds.pattern.all (·.occursIn r.text)

def warnings (ds : Directives) : List String :=
  ds.rejected.map fun r => "warning: " ++ r ++ ", ignoring it"

end Directives
end SceneGpu
