import QueryGate.Disk.Dump
import QueryGate.Program.Basic
import Std.Time.DateTime.Timestamp

/-!
# The command line

Reads the files that a run works on, carries out the run, writes back what it changed, and prints
what it printed. No server is reached from here.
-/

namespace QueryGate.Main

/-- The variables of the process. -/
def readEnvironment : IO Environment := do
  let bytes ← try IO.FS.readBinFile "/proc/self/environ" catch _ => pure ByteArray.empty
  let entries := ((String.fromUTF8? bytes).getD "").splitOn "\x00"
  return ⟨entries.filterMap fun entry =>
    match entry.splitOn "=" with
    | name :: value :: more => some (name, ("=".intercalate (value :: more)).toList)
    | _ => none⟩

/-- A way as a path of the system. -/
def pathOf (way : List FileName) : String :=
  "/" ++ "/".intercalate (way.map String.ofList)

/-- Adds to a disk what the system has at a way and above it. -/
def load (disk : Disk Content) (way : List FileName) : IO (Disk Content) := do
  let here ← IO.currentDir
  let mut disk := disk
  for n in [1:way.length + 1] do
    let part := way.take n
    let path := here / pathOf part
    if (disk.stands? part).isNone then
      if ← path.isDir then
        disk := { disk with nodes := disk.nodes ++ [(part, .directory)] }
      else if ← path.pathExists then
        let bytes ← try IO.FS.readBinFile path catch _ => pure ByteArray.empty
        disk :=
          { nodes := disk.nodes ++ [(part, .file disk.files.length)]
            files := disk.files ++ [.ofBytes bytes] }
  return disk

/-- Adds what the system has at several ways. -/
def loadAll (disk : Disk Content) (ways : List (List FileName)) : IO (Disk Content) :=
  ways.foldlM load disk

/-- Brings the system from one state of a disk to another. -/
def save (before after : Disk Content) : IO Unit := do
  for (way, node) in before.nodes do
    if (after.stands? way).isNone then
      match node with
      | .file _ => IO.FS.removeFile (pathOf way)
      | _ => pure ()
  for (way, node) in after.nodes do
    match node with
    | .directory =>
      if (before.stands? way).isNone then IO.FS.createDirAll (pathOf way)
    | .file number =>
      let content? := after.content? number
      if before.stands? way != some node || before.content? number != content? then
        IO.FS.writeBinFile (pathOf way) ((content?.map Content.toBytes).getD ByteArray.empty)
    | .deadLink => pure ()

/-- The world of this process, with the files that a run with these arguments works on. -/
def readWorld (args : List (List Char)) : IO World := do
  let base := Path.names [] (← IO.currentDir).toString.toList
  let now ← Std.Time.Timestamp.now
  let w : World :=
    { base, environment := ← readEnvironment
      now := now.toMillisecondsSinceUnixEpoch.toInt.toNat }
  let w := { w with disk := ← loadAll w.disk w.environmentWays }
  let known := w.withEnvironmentFile
  match CommandLine.read args with
  | .error _ => return w
  | .ok i =>
    let disk ← loadAll w.disk
      [Path.names base (known.settingsPathFor i), Path.names base known.logPath]
    match { known with disk }.settings i with
    | .error _ => return { w with disk }
    | .ok s => return { w with disk := ← loadAll disk (known.filesFor s) }

end QueryGate.Main

open QueryGate in
/-- Runs the program. -/
def main (args : List String) : IO UInt32 := do
  let args := args.map String.toList
  let w ← Main.readWorld args
  let r := Program.run w args
  Main.save w.disk r.disk
  for line in r.complaints do
    IO.eprintln (String.ofList line)
  match r.printed? with
  | some (.result j) => IO.println j.prettyText
  | some (.text s) => IO.println (String.ofList s)
  | none => pure ()
  return UInt32.ofNat r.exit.code
