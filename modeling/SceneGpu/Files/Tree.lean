import SceneGpu.Path
/-!
A file system: what stands at each place, where a place is the list of names from the root. Paths
are followed one segment at a time, so a step through a missing directory fails even if a later
step goes up again.
-/
namespace SceneGpu.Files

/-- A moment in nanoseconds since the epoch; earlier moments are negative. -/
abbrev Stamp := Int

abbrev Place := List (List UInt8)

inductive Refusal where
  | notFound
  | denied
  | notDirectory
  | isDirectory
  | notText
  | nulInName
  | nulInArgument
deriving DecidableEq, Repr

def Refusal.message : Refusal → String
  | .notFound => "No such file or directory (os error 2)"
  | .denied => "Permission denied (os error 13)"
  | .notDirectory => "Not a directory (os error 20)"
  | .isDirectory => "Is a directory (os error 21)"
  | .notText => "stream did not contain valid UTF-8"
  | .nulInName => "file name contained an unexpected NUL byte"
  | .nulInArgument => "nul byte found in provided data"

inductive Node where
  | directory (stamp : Stamp)
  | file (content : List UInt8) (stamp : Stamp) (executable : Bool)
deriving DecidableEq, Repr

def Node.stamp : Node → Stamp
  | .directory stamp => stamp
  | .file _ stamp _ => stamp

def Node.isDirectory : Node → Bool
  | .directory _ => true
  | .file _ _ _ => false

structure Tree where
  node : Place → Option Node
  here : Place
  now : Stamp

namespace Tree

def follow (t : Tree) : Place → List (List UInt8) → Except Refusal Place
  | place, [] => .ok place
  | place, segment :: rest =>
    match t.node place with
    | none => .error .notFound
    | some (.file _ _ _) => .error .notDirectory
    | some (.directory _) =>
      if Path.isIdle segment then t.follow place rest
      else if Path.isUp segment then t.follow place.dropLast rest
      else t.follow (place ++ [segment]) rest

def reach (t : Tree) (p : Path) : Except Refusal Place :=
  if p.bytes.contains 0 then .error .nulInName
  else if p.bytes = [] then .error .notFound
  else t.follow (if p.isAbsolute then [] else t.here) (Path.split p.bytes)

def find (t : Tree) (p : Path) : Except Refusal (Place × Node) :=
  match t.reach p with
  | .error e => .error e
  | .ok place =>
    match t.node place with
    | none => .error .notFound
    | some node => .ok (place, node)

def contains (t : Tree) (p : Path) : Bool := (t.find p).isOk

def isDirectory (t : Tree) (p : Path) : Bool :=
  match t.find p with
  | .ok (_, node) => node.isDirectory
  | .error _ => false

def modified? (t : Tree) (p : Path) : Option Stamp :=
  match t.find p with
  | .ok (_, node) => some node.stamp
  | .error _ => none

def place? (t : Tree) (p : Path) : Option Place :=
  match t.find p with
  | .ok (place, _) => some place
  | .error _ => none

def read (t : Tree) (p : Path) : Except Refusal (List UInt8) :=
  match t.find p with
  | .error e => .error e
  | .ok (_, .directory _) => .error .isDirectory
  | .ok (_, .file content _ _) => .ok content

def readText (t : Tree) (p : Path) : Except Refusal String :=
  match t.read p with
  | .error e => .error e
  | .ok bytes =>
    match Utf8.decodeText? bytes with
    | none => .error .notText
    | some s => .ok s

/-- Two paths name the same file if they agree step by step or lead to one place that exists. -/
def sameFile (t : Tree) (p q : Path) : Bool :=
  p.agrees q || (match t.place? p, t.place? q with
    | some a, some b => a = b
    | _, _ => false)

def put (t : Tree) (place : Place) (n : Option Node) : Tree :=
  { t with node := fun x => if x = place then n else t.node x }

def tick (t : Tree) : Tree := { t with now := t.now + 1 }

def makeWay (t : Tree) (place : Place) : List (List UInt8) → Tree × Place × List Place
  | [] => (t, place, [])
  | segment :: rest =>
    if Path.isIdle segment then t.makeWay place rest
    else if Path.isUp segment then t.makeWay place.dropLast rest
    else
      let next := place ++ [segment]
      match t.node next with
      | some _ => t.makeWay next rest
      | none =>
        let r := (t.put next (some (.directory t.now))).makeWay next rest
        (r.1, r.2.1, next :: r.2.2)

def makeDirectory (t : Tree) (p : Path) : Tree × List Place :=
  let r := t.makeWay (if p.isAbsolute then [] else t.here) (Path.split p.bytes)
  (r.1.tick, r.2.2)

def writeFile (t : Tree) (p : Path) (content : List UInt8) (stamp : Option Stamp)
    (executable : Bool) : Tree × List Place :=
  let way := t.makeWay (if p.isAbsolute then [] else t.here) (Path.split p.bytes).dropLast
  let place := way.2.1 ++ [(Path.split p.bytes).getLast?.getD []]
  let node := Node.file content (stamp.getD t.now) executable
  ((way.1.put place (some node)).tick, way.2.2 ++ [place])

def remove (t : Tree) (p : Path) : Tree :=
  match t.place? p with
  | none => t
  | some place => (t.put place none).tick

def empty (here : Place) (now : Stamp) : Tree where
  node := fun place => if place.isPrefixOf here then some (.directory now) else none
  here := here
  now := now

end Tree
end SceneGpu.Files
