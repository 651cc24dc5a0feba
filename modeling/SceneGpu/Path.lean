import SceneGpu.Text.Quoted
/-!
File paths as byte strings. A path may start at the root (`/`) or name the current directory first
(`.`); behind that head stand its segments, separated by slashes. Empty segments and later single
dots are idle: they name no step.
-/
namespace SceneGpu

structure Path where
  bytes : List UInt8
deriving DecidableEq, Repr

namespace Path

def slash : UInt8 := 47

def dot : UInt8 := 46

def ofText (s : String) : Path := ⟨Utf8.encodeText s⟩

def isAbsolute (p : Path) : Bool := p.bytes.head? = some slash

def split : List UInt8 → List (List UInt8)
  | [] => [[]]
  | b :: rest =>
    if b = slash then [] :: split rest
    else match split rest with
      | [] => [[b]]
      | s :: ss => (b :: s) :: ss

def unsplit (segments : List (List UInt8)) : List UInt8 := [slash].intercalate segments

def startsHere (p : Path) : Bool := (split p.bytes).head? = some [dot]

def head (p : Path) : List UInt8 :=
  if p.isAbsolute then [slash] else if p.startsHere then [dot] else []

def segments (p : Path) : List (List UInt8) := split (p.bytes.drop p.head.length)

def isIdle (segment : List UInt8) : Bool := segment = [] || segment = [dot]

def isUp (segment : List UInt8) : Bool := segment = [dot, dot]

def steps (p : Path) : List (List UInt8) := p.segments.filter (!isIdle ·)

/-- Two paths agree if they have the same head and take the same steps. -/
def agrees (p q : Path) : Bool := p.head = q.head && p.steps = q.steps

def dropIdleEnd (segments : List (List UInt8)) : List (List UInt8) :=
  (segments.reverse.dropWhile isIdle).reverse

def fileName (p : Path) : Option (List UInt8) := p.steps.getLast?.filter (!isUp ·)

/-- The path without its last step; the head counts as a step when nothing follows it. -/
def parent (p : Path) : Option Path :=
  match p.steps with
  | [] => if p.startsHere && !p.isAbsolute then some ⟨[]⟩ else none
  | _ => some ⟨p.head ++ unsplit (dropIdleEnd (dropIdleEnd p.segments).dropLast)⟩

def join (p q : Path) : Path :=
  if q.isAbsolute then q
  else if p.bytes = [] || p.bytes.getLast? = some slash then ⟨p.bytes ++ q.bytes⟩
  else ⟨p.bytes ++ slash :: q.bytes⟩

def withFileName (p : Path) (name : List UInt8) : Path :=
  let directory := if p.fileName.isSome then p.parent.getD p else p
  directory.join ⟨name⟩

def splitDot (name : List UInt8) : Option (List UInt8 × List UInt8) :=
  let back := name.reverse
  let after := back.takeWhile (· ≠ dot)
  match back.dropWhile (· ≠ dot) with
  | [] => none
  | _ :: before => some (before.reverse, after.reverse)

/-- What follows the last dot of the file name. A name whose only dot comes first has none. -/
def extension (p : Path) : Option (List UInt8) :=
  ((p.fileName.bind splitDot).filter fun (before, _) => before ≠ []).map (·.2)

def display (p : Path) : String := Utf8.decodeTextLossy p.bytes

def quoted (p : Path) : String := Text.quoteBytes p.bytes

end Path
end SceneGpu
