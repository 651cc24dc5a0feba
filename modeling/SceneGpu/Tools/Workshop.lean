import SceneGpu.Files.Tree
/-!
External tools: executable files that answer what they are given to read. A name without a slash is
looked up in the search path; any other name is a path.
-/
namespace SceneGpu.Tools

structure Answer where
  exit : Int
  stdout : List UInt8
  stderr : List UInt8
deriving DecidableEq, Repr

/-- Exit statuses count modulo 256. -/
def Answer.succeeds (a : Answer) : Bool := a.exit % 256 = 0

/-- A tool reads its standard input, or the file that it is handed. -/
abbrev Tool := List UInt8 → Answer

structure Workshop where
  tree : Files.Tree
  tool : Files.Place → Option Tool
  searchPath : List Path

namespace Workshop

def launchFile (w : Workshop) (p : Path) : Except Files.Refusal Tool :=
  match w.tree.find p with
  | .error e => .error e
  | .ok (_, .directory _) => .error .denied
  | .ok (_, .file _ _ false) => .error .denied
  | .ok (place, .file _ _ true) =>
    match w.tool place with
    | none => .error .denied
    | some t => .ok t

/-- Tries each directory; a refusal other than absence is reported if no later one has the tool. -/
def search (w : Workshop) (name : Path) : Bool → List Path → Except Files.Refusal Tool
  | denied, [] => .error (if denied then .denied else .notFound)
  | denied, directory :: rest =>
    match w.launchFile (directory.join name) with
    | .ok t => .ok t
    | .error .denied => w.search name true rest
    | .error _ => w.search name denied rest

def launch (w : Workshop) (executable : String) (arguments : List String) :
    Except Files.Refusal Tool :=
  let name := Path.ofText executable
  if (executable :: arguments).any fun s => s.toList.contains '\x00' then .error .nulInArgument
  else if executable = "" then .error .notFound
  else if name.bytes.contains Path.slash then w.launchFile name
  else w.search name false w.searchPath

end Workshop

def searchPathOf (text : String) : List Path :=
  (text.splitOn ":").map Path.ofText

def answersDirectory : Path := Path.ofText "_tool"

def install (t : Files.Tree) (name : List UInt8) : Files.Tree :=
  let answer := answersDirectory.join ⟨name ++ Utf8.encodeText ".out"⟩
  ((t.writeFile ⟨name⟩ [] none true).1.writeFile answer [] none false).1

end SceneGpu.Tools
