import SceneGpu.CommandLine.Run
/-!
The program: it takes a picture of the working directory, runs on it, and writes what comes out. It
has neither a graphics library nor external tools at hand.
-/
namespace SceneGpu.CommandLine

open Files

abbrev Picture := List (Place × Node)

partial def takePicture (place : Place) (directory : String) : IO Picture := do
  let entries ← (← IO.FS.realPath directory).readDir
  let parts ← entries.toList.mapM fun entry => do
    let name := entry.path.toString
    let here := place ++ [Utf8.encodeText entry.fileName]
    let data ← entry.path.metadata
    let stamp : Stamp := data.modified.sec * 1000000000 + data.modified.nsec.toNat
    match data.type with
    | .dir => return (here, Node.directory stamp) :: (← takePicture here name)
    | .file => return [(here, Node.file (← IO.FS.readBinFile name).toList stamp false)]
    | _ => return []
  return parts.flatten

def workshopOf (here : Place) (picture : Picture) : Tools.Workshop where
  tree := picture.foldl (fun t e => t.put e.1 (some e.2)) (.empty here 0)
  tool := fun _ => none
  searchPath := []

def changes (before after : Picture) : List Place :=
  (after.filter fun e => !before.any fun b => b.1 = e.1 && b.2.stamp = e.2.stamp).map (·.1)

def writeRecords (records : List Record) : IO Unit :=
  records.forM fun r => do
    IO.eprintln ("[" ++ r.level.name ++ " " ++ r.topic.target ++ "] " ++ r.headline)
    IO.eprint r.overflow

def write (text : String) : IO Unit := do
  IO.print text
  (← IO.getStdout).flush

/-- Looks at the files four times a second. -/
partial def keepWatching (here : Place) (before : Picture) (w : Watching) : IO Unit := do
  IO.sleep 250
  let after ← takePicture here "."
  let r := w.round (workshopOf here after) (changes before after)
  writeRecords r.records
  write r.printed
  keepWatching here after r.next

def placeOfHere : IO Place := do
  return (Path.ofText (← IO.currentDir).toString).steps

def readVariable (name : String) : IO (String × Option String) := do return (name, ← IO.getEnv name)

end SceneGpu.CommandLine

open SceneGpu.CommandLine in
def main (arguments : List String) : IO UInt32 := do
  let here ← placeOfHere
  let picture ← takePicture here "."
  let found ← [directivesVariable, SceneGpu.disableWorkaroundsVariable].mapM readVariable
  let s : Surroundings :=
    ⟨workshopOf here picture, fun name => (found.lookup name).join, none⟩
  let outcome := s.run arguments
  outcome.warnings.forM IO.eprintln
  writeRecords outcome.records
  write outcome.output
  IO.eprint outcome.account
  match outcome.watching with
  | some w =>
    keepWatching here picture w
    return 0
  | none => return UInt32.ofNat outcome.code
