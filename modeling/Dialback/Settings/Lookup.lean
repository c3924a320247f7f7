import Dialback.Files.Tree
import Dialback.Settings.Document

/-!
Finding settings in a file tree: the nearest directory at or above the starting one in which an entry
of the settings' name can be seen decides, whether or not that entry can be read.
-/
namespace Dialback.Settings

open Files

def fileName : String := "revcall.toml"

/-- Looks into `start` and then, going up, into each path above it. -/
def findUp (t : Tree) (start : Path) : Nat → Option Path
  | 0 => none
  | n + 1 =>
    if t.exists? (start.join fileName) then some (start.join fileName)
    else
      match start.parent? with
      | some up => findUp t up n
      | none => none

def find? (t : Tree) (start : Path) : Option Path :=
  findUp t start (start.parts.length + 1)

/-- Loads the settings of one file; the fault tells the path as it is given here. -/
def load (t : Tree) (shownPath : String) (p : Path) : Except SettingsFault Settings :=
  match t.readText p with
  | .error fault => .error (.read shownPath fault.message)
  | .ok text => parse text

/-- The path of the current directory. -/
def here (t : Tree) : Path where
  start := .root
  pieces := t.current

/-- Loads what is found from the current directory on, or the defaults if nothing is. -/
def discover (t : Tree) : Except SettingsFault Settings :=
  match find? t (here t) with
  | some p => load t p.render p
  | none => .ok {}

end Dialback.Settings
