import SceneGpu.Collection
import SceneGpu.Report.Journal
/-!
Textures of an object and their slots in the array of object textures.
-/
namespace SceneGpu

/-- A handle of the graphics driver; zero is no object. -/
abbrev Handle := Nat

structure Texture where
  image : Handle
  view : Handle
  sampler : Handle
deriving DecidableEq, Repr

abbrev TextureMap := SortedMap String Texture

def slot? : String → Option Nat
  | "ambient" => some 0
  | "diffuse" => some 1
  | "specular" => some 2
  | "normal" => some 3
  | "alphamask" => some 4
  | "displacement" => some 5
  | _ => none

/-- Unknown types are reported and take slot 0. -/
def canonicalSlot (type : String) : Nat × List Record :=
  match slot? type with
  | some slot => (slot, [])
  | none => (0, [.warning .object ("Unknown texture type: " ++ type)])

structure ImageWrite where
  binding : UInt32
  element : Nat
  view : Handle
  sampler : Handle
  layout : Nat
deriving DecidableEq, Repr

def readOnlyLayout : Nat := 5

def ImageWrite.ofTexture (binding : UInt32) (type : String) (t : Texture) : ImageWrite :=
  ⟨binding, (canonicalSlot type).1, t.view, t.sampler, readOnlyLayout⟩

def imageWrites (binding : UInt32) (textures : TextureMap) : List ImageWrite :=
  textures.entries.map fun e => .ofTexture binding e.1 e.2

def slotWarnings (textures : TextureMap) : List Record :=
  textures.entries.flatMap fun e => (canonicalSlot e.1).2

end SceneGpu
