import SceneGpu.Report.Failure
/-!
What a computation says on the way. A remark goes to the log; a diagnostic goes to the caller's sink,
which passes it on to the log. A `Logged` computation lists both in the order they arose, also when
it fails. The error channel gets the lines of a record behind its first, and the account of the failure
that ended the program.
-/
namespace SceneGpu

inductive Level where
  | error
  | warn
  | info
  | debug
  | trace
deriving DecidableEq, Repr

namespace Level

def name : Level → String
  | .error => "ERROR"
  | .warn => "WARN"
  | .info => "INFO"
  | .debug => "DEBUG"
  | .trace => "TRACE"

def depth : Level → Nat
  | .error => 1
  | .warn => 2
  | .info => 3
  | .debug => 4
  | .trace => 5

end Level

inductive Topic where
  | command
  | config
  | shader
  | library
  | clauses
  | emission
  | watch
  | device
  | driver
  | setup
  | layout
  | object
  | other
deriving DecidableEq, Repr

def Topic.target : Topic → String
  | .command => "vkscene"
  | .config => "vkscene::config"
  | .shader => "vkscene::shader"
  | .library => "vkscene::shader::reflect"
  | .clauses => "vkscene::shader::transpile"
  | .emission => "vkscene::shader::legacy"
  | .watch => "vkscene::shader::watch"
  | .device => "vkscene::device"
  | .driver => "vkscene::backend::instance"
  | .setup => "vkscene::backend::device"
  | .layout => "vkscene::backend::pipeline"
  | .object => "vkscene::object"
  | .other => ""

structure Record where
  level : Level
  topic : Topic
  text : String
  diagnostic : Bool
deriving DecidableEq, Repr

namespace Record

def remark (level : Level) (topic : Topic) (text : String) : Record := ⟨level, topic, text, false⟩

def warning (topic : Topic) (text : String) : Record := ⟨.warn, topic, text, true⟩

def error (topic : Topic) (text : String) : Record := ⟨.error, topic, text, true⟩

end Record

def diagnostics (records : List Record) : List Record := records.filter (·.diagnostic)

structure Logged (α : Type) where
  records : List Record
  result : Except Failure α

namespace Logged

def succeed {α : Type} (a : α) : Logged α := ⟨[], .ok a⟩

def fail {α : Type} (f : Failure) : Logged α := ⟨[], .error f⟩

def ofResult {α : Type} (r : Except Failure α) : Logged α := ⟨[], r⟩

def say (records : List Record) : Logged Unit := ⟨records, .ok ()⟩

def andThen {α β : Type} (x : Logged α) (f : α → Logged β) : Logged β :=
  match x.result with
  | .error e => ⟨x.records, .error e⟩
  | .ok a => ⟨x.records ++ (f a).records, (f a).result⟩

instance : Monad Logged where
  pure := succeed
  bind := andThen

def within {α : Type} (context : String) (x : Logged α) : Logged α :=
  ⟨x.records, SceneGpu.within context x.result⟩

end Logged

def leadLines (first others text : String) : String :=
  first ++ ("\n" ++ others).intercalate (text.splitOn "\n")

namespace Record

def lines (r : Record) : List String := r.text.splitOn "\n"

def headline (r : Record) : String := r.lines.headD ""

def overflow (r : Record) : String := String.join (r.lines.tail.map fun line => "    " ++ line ++ "\n")

end Record

namespace Failure

def causeLead : String := "    "

def numberedLead (n : Nat) : String :=
  String.ofList (List.replicate (5 - (toString n).length) ' ') ++ toString n ++ ": "

/-- A lone cause stands bare; several are numbered. -/
def causesText : List String → String
  | [] => ""
  | [cause] => "\n\nCaused by:\n" ++ leadLines causeLead causeLead cause
  | causes => "\n\nCaused by:" ++ String.join (causes.mapIdx fun n cause =>
      "\n" ++ leadLines (numberedLead n) "       " cause)

def account (f : Failure) : String :=
  "Error: " ++ f.chain.headD "" ++ causesText f.chain.tail ++ "\n"

end Failure
end SceneGpu
