import ContentBlocking.Cli.Run
import Std.Time.DateTime.Timestamp

/-!
# The program

The outer layer of the command line.  It copies the files that a command may use into a `FileTree`,
runs the command on it, and brings the disk to the state of the tree afterwards.
-/

namespace ContentBlocking.Cli

/-- The names in a path. -/
def placeOf (path : String) : Place := ((Path.parts path).filter Path.isName).map String.ofList

/-- The entry of the disk at a place. -/
def diskEntry (p : Place) : IO.FS.DirEntry := ⟨"/", "/".intercalate p⟩

/-- The places that a path passes, the last of which it names. -/
def passed (p : Place) : List (List Char) → List Place
  | [] => [p]
  | part :: parts =>
    if part = [] ∨ part = ['.'] then passed p parts
    else p :: passed (if part = ['.', '.'] then p.dropLast else p ++ [String.ofList part]) parts

/-- The tree with what the disk has at a place; of a directory only the names. -/
def copyEntry (t : FileTree) (p : Place) : IO (FileTree × List String) := do
  try
    let path := (diskEntry p).path
    let found ← path.metadata
    match found.type with
    | .dir =>
      let names := (← path.readDir).toList.map (·.fileName)
      return (if p = [] then t else t.put p .directory, names)
    | _ =>
      let content := Content.ofBytes (← IO.FS.readBinFile path)
      let date := ⟨found.modified.sec * 1000000000 + found.modified.nsec.toNat⟩
      return (t.put p (.file content date), [])
  catch _ => return (t, [])

/-- The tree with the entry that a path names and, if that is a directory, the entries in it. -/
def copyPath (t : FileTree) (path : String) : IO FileTree := do
  let mut t := t
  let start := if path.startsWith "/" then [] else t.home
  let places := passed start (Path.parts path)
  for p in places.dropLast do
    t := (← copyEntry t p).1
  for p in places.getLast?.toList do
    let (found, names) ← copyEntry t p
    t := found
    for name in names do
      t := (← copyEntry t (p ++ [name])).1
  return t

/-- The paths that the commands use under a configuration. -/
def pathsOf (c : Config) : List String :=
  [c.resources, Path.join c.resources (Bundle.filename c.trackerDatabase), c.documents, c.store,
    c.markers, Path.withExtension c.markers "tmp"] ++ c.suffixList.toList

/-- The tree with all files that a command may use. -/
def copyDisk (t : FileTree) (o : Options) : IO FileTree := do
  let t ← o.config.toList.foldlM copyPath t
  match o.named t with
  | .ok config => (pathsOf config).foldlM copyPath t
  | .error _ => return t

/-- Brings the disk from the state of one tree to that of another one. -/
def writeBack (before after : FileTree) : IO Unit := do
  for p in before.entries.keys.reverse do
    unless after.entries.contains p do
      IO.FS.removeFile (diskEntry p).path
  for (p, e) in after.entries.toList do
    if before.entries[p]? ≠ some e then
      match e with
      | .directory => IO.FS.createDir (diskEntry p).path
      | .file content _ => IO.FS.writeBinFile (diskEntry p).path content.bytes

/-- The disk's home and the time, without any files. -/
def emptyDisk : IO FileTree := do
  let now ← Std.Time.Timestamp.now
  return .empty (placeOf (← IO.currentDir).toString) ⟨now.toNanosecondsSinceUnixEpoch.val⟩

end ContentBlocking.Cli

open ContentBlocking Cli in
/-- Runs the program with the arguments of the command line. -/
def main (args : List String) : IO UInt32 := do
  let start ← IO.monoNanosNow
  let disk ← match Arguments.parse args with
    | .run options _ => copyDisk (← emptyDisk) options
    | _ => emptyDisk
  let (outcome, after) := run args disk
  writeBack disk after
  let nanos := (← IO.monoNanosNow) - start
  for line in outcome.output do
    IO.println (line.render nanos)
  for complaint in outcome.ending.complaint?.toList do
    IO.eprintln complaint
  return outcome.ending.code.toUInt32
