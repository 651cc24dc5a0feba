/-!
Queue families: which family serves each role, and which of its queues the role takes.
-/
namespace SceneGpu

inductive QueueRole where
  | graphics
  | transfer
  | compute
deriving DecidableEq, Repr

namespace QueueRole

def all : List QueueRole := [.graphics, .transfer, .compute]

def capability : QueueRole → UInt32
  | .graphics => 1
  | .transfer => 4
  | .compute => 2

end QueueRole

abbrev QueueFamilies := List UInt32

def serves (role : QueueRole) (family : UInt32) : Bool :=
  family &&& role.capability = role.capability

structure RoleFamilies where
  graphics : Nat
  transfer : Nat
  compute : Nat
  present : Nat
deriving DecidableEq, Repr

namespace RoleFamilies

def of (f : RoleFamilies) : QueueRole → Nat
  | .graphics => f.graphics
  | .transfer => f.transfer
  | .compute => f.compute

def list (f : RoleFamilies) : List Nat := QueueRole.all.map f.of

def lastServing (role : QueueRole) : Nat → Nat → QueueFamilies → Nat
  | found, _, [] => found
  | found, start, family :: rest =>
    lastServing role (if serves role family then start else found) (start + 1) rest

/-- The last family that can serve a role takes it. Presentation always uses the first one. -/
def resolve (families : QueueFamilies) : RoleFamilies where
  graphics := lastServing .graphics 0 0 families
  transfer := lastServing .transfer 0 0 families
  compute := lastServing .compute 0 0 families
  present := 0

end RoleFamilies

structure QueueGroup where
  family : Nat
  count : Nat
deriving DecidableEq, Repr

def QueueGroup.add (family : Nat) : List QueueGroup → List QueueGroup
  | [] => [⟨family, 1⟩]
  | g :: rest =>
    if g.family = family then ⟨g.family, g.count + 1⟩ :: rest else g :: add family rest

def RoleFamilies.groups (f : RoleFamilies) : List QueueGroup :=
  f.list.foldl (fun groups family => QueueGroup.add family groups) []

/-- The queue of each role: its family, and as its index the number of earlier roles there. -/
def slotsFrom (before : List Nat) : List Nat → List (Nat × Nat)
  | [] => []
  | family :: rest => (family, before.count family) :: slotsFrom (before ++ [family]) rest

def RoleFamilies.slots (f : RoleFamilies) : List (Nat × Nat) := slotsFrom [] f.list

end SceneGpu
