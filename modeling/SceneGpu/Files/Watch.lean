import SceneGpu.Report.Journal
/-!
Watching directories: the paths below a watched directory that were written since they were last
asked for. A path is told under the root it was seen through.
-/
namespace SceneGpu.Files

inductive ChangeKind where
  | any
  | access
  | create
  | modify
  | remove
  | other
deriving DecidableEq, Repr

structure Notification where
  kind : ChangeKind
  paths : List Path
deriving DecidableEq, Repr

def Notification.changed (n : Notification) : List Path :=
  match n.kind with
  | .create => n.paths
  | .modify => n.paths
  | _ => []

structure Watcher where
  roots : List (Path × Place)
  pending : List Path
deriving DecidableEq, Repr

namespace Watcher

def start (t : Tree) (roots : List Path) : Watcher where
  roots := roots.filterMap fun root =>
    match t.find root with
    | .ok (place, .directory _) => some (root, place)
    | _ => none
  pending := []

def pathOf (place : Place) : Path := ⟨Path.slash :: Path.unsplit place⟩

def reported? (t : Tree) (place : Place) (root : Path × Place) : Option Path :=
  if root.2.isPrefixOf place && root.2.length < place.length then
    some (((pathOf t.here).join root.1).join ⟨Path.unsplit (place.drop root.2.length)⟩)
  else none

/-- A path that is pending stays as it was told first. -/
def tell (w : Watcher) (path : Path) : Watcher :=
  if w.pending.any (·.agrees path) then w else { w with pending := w.pending ++ [path] }

def receive (w : Watcher) : Except String Notification → Watcher × List Record
  | .ok n => (n.changed.foldl tell w,
      n.changed.map fun path => .remark .debug .watch ("Shader changed on disk: " ++ path.display))
  | .error text => (w, [.remark .warn .watch ("Shader watch error: " ++ text)])

/-- Of overlapping roots the last one reports. -/
def noticePlace (w : Watcher) (t : Tree) (place : Place) : Watcher :=
  match (w.roots.filterMap (reported? t place)).getLast? with
  | none => w
  | some path => w.tell path

def notice (w : Watcher) (t : Tree) (places : List Place) : Watcher :=
  places.foldl (fun w place => w.noticePlace t place) w

def drain (w : Watcher) : Watcher × List Path := ({ w with pending := [] }, w.pending)

end Watcher
end SceneGpu.Files
