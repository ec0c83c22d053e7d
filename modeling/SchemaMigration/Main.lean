import SchemaMigration.CommandLine.Run
import SchemaMigration.Database.Catalog
import Std.Time.Zoned

/-!
# The command `xm`

The command works on the files below the working directory. They are read
before the command runs, and what it changed is written back afterwards. The
database is a catalog in memory.
-/

open SchemaMigration

/-- The entry of a file on disk, as far as it can be read. -/
def entryOnDisk (octets : ByteArray) : FileEntry :=
  .file (.ofOctets (octets.toList.map UInt8.toNat))

/-- Read what is below a directory into a tree. -/
partial def readBelow (directory : IO.FS.DirEntry) (steps : List String) (tree : FileTree) :
    IO FileTree := do
  let mut read := tree
  for entry in ← directory.path.readDir do
    let inner := steps ++ [entry.fileName]
    if ← entry.path.isDir then
      read ← readBelow entry inner (read.deposit ⟨entry.fileName, inner⟩ .directory)
    else
      let octets ← IO.FS.readBinFile entry.path
      read := read.deposit ⟨entry.fileName, inner⟩ (entryOnDisk octets)
  return read

/-- Read the working directory into a tree. -/
def readWorkingDirectory : IO FileTree := do
  let here ← IO.currentDir
  readBelow ⟨here, "."⟩ [] FileTree.empty

/-- Write an entry to disk when it is not the one that was read. -/
def writeEntry (before : FileTree) (location : Location) (entry : FileEntry) : IO Unit := do
  if before.holding? location != some entry then
    let path := Text.join "/" location
    match entry with
    | .directory => IO.FS.createDirAll path
    | .file content => IO.FS.writeFile path content.shown

/-- Directories come before what is in them. -/
def inOrder (first second : Location × FileEntry) : Bool :=
  decide (first.1.length ≤ second.1.length)

/-- Write back what a command changed. -/
def writeBack (before after : FileTree) : IO Unit := do
  for (location, entry) in after.entries.mergeSort inOrder do
    writeEntry before location entry
  for (location, _) in before.entries do
    if (after.holding? location).isNone then
      IO.FS.removeFile (Text.join "/" location)

/-- The local date and time. -/
def localTime : IO Timestamp := do
  let time ← Std.Time.PlainDateTime.now
  return ⟨time.year, time.month.toNat, time.day.toNat, time.hour.toNat, time.minute.toNat,
    time.second.toNat⟩

/-- Carry out the command that the arguments write. -/
def main (arguments : List String) : IO UInt32 := do
  let before ← readWorkingDirectory
  let around : CommandLine.Surroundings := ⟨← localTime, ← IO.getEnv "XM_TARGET"⟩
  let ending := CommandLine.run Catalog.engine around arguments ⟨before, Catalog.empty, ""⟩
  writeBack before ending.state.files
  IO.print ending.state.output
  for notice in ending.notices do
    if notice.level = .warning then
      IO.eprintln notice.text
  match ending.outcome with
  | .ok code => return code.toUInt32
  | .error failure =>
      let text := failure.message
      IO.eprintln s!"Error: {text}"
      return failure.code.toUInt32
