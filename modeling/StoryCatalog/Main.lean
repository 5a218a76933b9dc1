import StoryCatalog.CommandLine.Program

/-!
# The command line

The outer layer of the program. The directories that a command line speaks of are read into a disk,
the program runs over that disk, and what it has changed is written back.
-/

namespace StoryCatalog

namespace Shell

/-- A place as the operating system spells it. -/
def spelling (place : Place) : String :=
  place.path.toText.toStringLossy

/-- Read what stands at a place and everything below it. What cannot be read is left out. A link is
taken to lead straight to where it ends. -/
partial def load (disk : Disk) (place : Place) : IO Disk := do
  let file := (← IO.currentDir) / spelling place
  try
    match (← file.symlinkMetadata).type with
    | .dir => do
        let mut disk := if place.isEmpty then disk else disk.put place .directory
        for entry in ← file.readDir do
          disk ← load disk (place ++ [Text.ofString entry.fileName])
        return disk
    | .file => return disk.put place (.file (← IO.FS.readBinFile file).toList)
    | .symlink => return disk.put place (.link (Text.ofString (← IO.FS.realPath file).toString))
    | .other => return disk
  catch _ => return disk

/-- Put the directories that lead to a place on a disk. -/
def loadAbove (disk : Disk) (place : Place) : Disk :=
  match disk.makeDirectories (Place.path place.dropLast) with
  | .ok made => made
  | .error _ => disk

/-- The places that an argument may speak of: its path, and where the links on it lead. -/
def placesOf (around : CommandLine.Surroundings) (argument : String) : IO (List Place) := do
  let words := (argument.splitOn "=").map Text.ofString
  let paths := words.filterMap fun word => (around.path word).toOption
  let mut places := []
  for path in paths do
    let place := Disk.simplify (around.fromHere path).names
    places := places ++ [place]
    try
      let real ← IO.FS.realPath (spelling place)
      places := places ++ [(Path.ofText (Text.ofString real.toString)).names]
    catch _ => pure ()
  return places

/-- Read a place unless it has been read. -/
def ensure (disk : Disk) (place : Place) : IO Disk := do
  if (disk.get? place).isSome then return disk else load (loadAbove disk place) place

/-- Write back what differs from the disk at the start. -/
def store (before after : Disk) : IO Unit := do
  for (place, node) in after.entries do
    if before.get? place ≠ some node then
      match node with
      | .directory => IO.FS.createDirAll (spelling place)
      | .file content => IO.FS.writeBinFile (spelling place) ⟨content.toArray⟩
      | .link _ => pure ()

end Shell

end StoryCatalog

open StoryCatalog in
/-- Run the program with the arguments of the command line. -/
def main (arguments : List String) : IO UInt32 := do
  let here := (Path.ofText (Text.ofString (← IO.currentDir).toString)).names
  let home := Path.ofText (Text.ofString ((← IO.getEnv "HOME").getD "/"))
  let scratch := Path.ofText (Text.ofString "/storymap-scratch")
  let around : CommandLine.Surroundings := ⟨here, home, scratch⟩
  let mut disk ← Shell.load (Shell.loadAbove Disk.empty here) here
  for argument in arguments do
    for place in ← Shell.placesOf around argument do
      disk ← Shell.ensure disk place
  -- all sources have been read into the disk, so none is refused any more
  let outcome := @CommandLine.run .free around disk (arguments.map Text.ofString)
  Shell.store disk outcome.disk
  (← IO.getStdout).putStr outcome.printed.toStringLossy
  (← IO.getStderr).putStr outcome.complaints.toStringLossy
  match outcome.exit with
  | .ok code => return code.toUInt32
  | .error failure =>
      (← IO.getStderr).putStrLn failure.message.toStringLossy
      return 1
