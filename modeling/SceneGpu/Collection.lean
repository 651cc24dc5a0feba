/-!
Collections by keys: a stable sort, the first element of each key, and maps as lists of entries in
ascending order of their keys.
-/
namespace SceneGpu

def insertOn {α : Type} (key : α → Nat) (a : α) : List α → List α
  | [] => [a]
  | b :: rest => if key a ≤ key b then a :: b :: rest else b :: insertOn key a rest

/-- Sorts by key; elements of one key keep their order. -/
def sortOn {α : Type} (key : α → Nat) (l : List α) : List α := l.foldr (insertOn key) []

def firstsBeyond {α κ : Type} [DecidableEq κ] (key : α → κ) : List κ → List α → List α
  | _, [] => []
  | seen, a :: rest =>
    if key a ∈ seen then firstsBeyond key seen rest
    else a :: firstsBeyond key (key a :: seen) rest

def firstsOn {α κ : Type} [DecidableEq κ] (key : α → κ) (l : List α) : List α :=
  firstsBeyond key [] l

structure SortedMap (κ ν : Type) where
  entries : List (κ × ν)
deriving DecidableEq, Repr

namespace SortedMap

variable {κ ν : Type} [DecidableEq κ] [LT κ] [DecidableLT κ]

def empty : SortedMap κ ν := ⟨[]⟩

def insertEntry (k : κ) (v : ν) : List (κ × ν) → List (κ × ν)
  | [] => [(k, v)]
  | e :: rest =>
    if k = e.1 then (k, v) :: rest
    else if k < e.1 then (k, v) :: e :: rest
    else e :: insertEntry k v rest

def insert (m : SortedMap κ ν) (k : κ) (v : ν) : SortedMap κ ν := ⟨insertEntry k v m.entries⟩

def get? (m : SortedMap κ ν) (k : κ) : Option ν := (m.entries.find? (·.1 = k)).map (·.2)

def erase (m : SortedMap κ ν) (k : κ) : SortedMap κ ν := ⟨m.entries.filter (·.1 ≠ k)⟩

def contains (m : SortedMap κ ν) (k : κ) : Bool := (m.get? k).isSome

def ofList (entries : List (κ × ν)) : SortedMap κ ν :=
  entries.foldl (fun m e => m.insert e.1 e.2) empty

def keys (m : SortedMap κ ν) : List κ := m.entries.map (·.1)

def values (m : SortedMap κ ν) : List ν := m.entries.map (·.2)

end SortedMap
end SceneGpu
