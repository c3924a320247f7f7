import Dialback.CommandLine.Run

/-!
The command line. It shows the library the part of the file system that the commands can look at,
runs the command there, and carries out what the report says. No sockets are opened: every address
counts as unreachable.
-/
namespace Dialback.CommandLine

/-- Why a file could not be read. -/
def faultOf : IO.Error → Files.Error
  | .permissionDenied _ _ _ => .permissionDenied
  | fault => .other (toString fault)

/-- What stands under a path, without the contents of directories. A file that is there and cannot be
read is shown with the reason. -/
def nodeAt? (path : String) : IO (Option Files.Node) := do
  let place := (← IO.currentDir) / path
  if ← place.isDir then return some .empty
  if !(← place.pathExists) then return none
  try
    return some (.ofBytes (← IO.FS.readBinFile path).toList)
  catch fault =>
    return some (.file (.error (faultOf fault)) false)

/-- Adds everything on the way to an absolute place, as far as it exists. -/
def reveal (root : Files.Node) (names : List String) : IO Files.Node :=
  (List.range names.length).foldlM (fun root n => do
    let place := names.take (n + 1)
    match ← nodeAt? ("/" ++ "/".intercalate place) with
    | some node =>
      if (root.at? place).isSome then return root else return (root.put? place node).getD root
    | none => return root) root

def placeOf (here : List String) (text : String) : List String :=
  let path := Files.Path.ofString text
  Files.Tree.origin here path ++ path.parts

/-- Everything that the words could name, and settings in and above the current directory. -/
def survey (words : List String) : IO Files.Tree := do
  let here := (Files.Path.ofString (← IO.currentDir).toString).parts
  let named := words.flatMap fun word =>
    let value := String.ofList (word.toList.dropWhile (· != '=') |>.drop 1)
    [placeOf here word, placeOf here word ++ [Settings.fileName], placeOf here value,
      placeOf here value ++ [Settings.fileName]]
  let above := (List.range (here.length + 1)).map fun n => here.take n ++ [Settings.fileName]
  let root ← (above ++ named).foldlM reveal Files.Node.empty
  return { root, current := here }

def freshProcessor : IO ProcessorId := do
  let bytes ← IO.getRandomBytes 16
  return Uuid.stamp (Uuid.ofBytes bytes.toList).value

end Dialback.CommandLine

open Dialback.CommandLine in
def main (words : List String) : IO UInt32 := do
  let host : Host := {
    files := ← survey words
    network := .isolated
    processor := ← freshProcessor }
  let report := host.invoke words
  if let some (path, text) := report.wrote then
    let directory := String.ofList ((path.toList.reverse.dropWhile (· != '/')).reverse)
    if directory != "" then IO.FS.createDirAll directory
    IO.FS.writeFile path text
  IO.print report.stdout
  IO.sleep (UInt32.ofNat (report.registration.elim 0 (·.now)))
  IO.eprint report.stderr
  return report.exit
