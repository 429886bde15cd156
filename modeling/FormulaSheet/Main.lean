import FormulaSheet.Identifier
import FormulaSheet.Program
import Std.Time.DateTime.Timestamp

/-!
The program as it is run: the part of the disk that it may look at is read first, and what it has
changed there is written afterwards.
-/

namespace FormulaSheet.Program

/-- What stands at a path; a file larger than any that is read is told by its size. -/
def entryAt (path : String) : IO (Option Disk.Entry) := do
  let file := System.mkFilePath [path]
  if !(← file.pathExists) then return none
  else if ← file.isDir then return some .directory
  else
    let size := (← file.metadata).byteSize.toNat
    if size > fileLimit then return some (.binary size)
    else
      let bytes ← IO.FS.readBinFile path
      return some (((String.fromUTF8? bytes).map Disk.Entry.text).getD (.binary bytes.size))

def absolute (names : List String) : String := "/" ++ String.intercalate "/" names

/-- Looks at the directories on a path. -/
def lookAround (d : Disk) (path : String) : IO Disk := do
  let names := d.names path
  let outer := (List.range names.length).map fun n => names.take n
  let mut disk := d
  for directory in outer do
    if ← (System.mkFilePath [absolute directory]).isDir then
      if !directory.isEmpty then disk := disk.put directory .directory
  return disk

/-- Looks at a path and at the directories on it. -/
def lookAt (d : Disk) (path : String) : IO Disk := do
  let disk ← lookAround d path
  match ← entryAt (absolute (d.names path)) with
  | some e => return disk.put (d.names path) e
  | none => return disk

/-- Looks at a file that is to be written, whatever it holds. -/
def lookAtTarget (d : Disk) (path : String) : IO Disk := do
  let disk ← lookAround d path
  let file := System.mkFilePath [absolute (d.names path)]
  if ← file.isDir then return disk.put (d.names path) .directory
  else if ← file.pathExists then return disk.put (d.names path) (.binary 0)
  else return disk

/-- Looks at a directory and at the files in it. -/
def lookInto (d : Disk) (path : String) : IO Disk := do
  let mut disk ← lookAt d path
  if disk.at? (disk.names path) = some .directory then
    for e in ← (System.mkFilePath [absolute (disk.names path)]).readDir do
      disk ← lookAt disk (Disk.join path e.fileName)
  return disk

/-- Reads what the program may look at. -/
def lookFor (h : Home) (c : CommandLine) (start : Disk) : IO Disk := do
  let mut disk := start
  for path in (c.config <|> Settings.configFile h).toList ++ c.file.toList do
    disk ← lookAt disk path
  for path in c.output.toList do
    disk ← lookAtTarget disk path
  let (s, _) := Settings.load disk h c.config
  if c.list || c.table.isSome || c.saveAs.isSome then
    for path in s.dataDir.toList do
      disk ← lookInto disk path
  return disk

/-- Writes what has changed. -/
def writeChanges (before after : Disk) : IO Unit := do
  for (names, e) in after.entries.reverse do
    if before.at? names != some e then
      match e with
      | .directory => IO.FS.createDirAll (absolute names)
      | .text s => IO.FS.writeFile (absolute names) s
      | .binary _ => pure ()

def home : IO Home := do
  let user := (← IO.getEnv "HOME").filter fun dir => !dir.isEmpty
  let directory := fun (variableName below : String) => do
    let own := (← IO.getEnv variableName).filter Disk.isAbsolute
    return own <|> user.map fun dir => Disk.join dir below
  return { config := ← directory "XDG_CONFIG_HOME" ".config"
           data := ← directory "XDG_DATA_HOME" ".local/share" }

def newId : IO String := do
  let bytes ← IO.getRandomBytes 16
  return Identifier.ofNat (bytes.foldl (fun n b => 256 * n + b.toNat) 0)

def now : IO Instant := do
  let t ← Std.Time.Timestamp.now
  return .ofNanoseconds t.toNanosecondsSinceUnixEpoch.val.toNat

end FormulaSheet.Program

open FormulaSheet in
/-- Runs the program with its arguments. -/
def main (args : List String) : IO UInt32 := do
  let home ← Program.home
  let here := (← IO.currentDir).toString
  let start : Disk := { here := Disk.names {} here }
  let disk ← match CommandLine.read args with
    | .run c => Program.lookFor home c start
    | _ => pure start
  let rowId ← Program.newId
  let occasion : Occasion :=
    { now := ← Program.now, tableId := ← Program.newId, rowId := rowId }
  let outcome := Program.run { disk := disk, home := home, occasion := occasion } args
  Program.writeChanges disk outcome.disk
  IO.print outcome.out
  for complaint in outcome.complaints do
    IO.eprintln complaint
  return outcome.code.toUInt32
