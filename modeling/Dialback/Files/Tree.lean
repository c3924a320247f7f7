import Dialback.Files.Path
import Dialback.Text.Utf8

/-!
File trees, as far as a program is let: directories with names in them, files with bytes, and links.
Paths are resolved component by component. Two dots lead to the directory above, and above the root
there is the root; a link leads to wherever its own path does. The system takes neither a path whose
text is too long nor too many links on one way.
-/
namespace Dialback.Files

inductive Error where
  | notFound
  | permissionDenied
  | alreadyExists
  | notADirectory
  | isADirectory
  | nameTooLong
  | tooManyLinks
  | malformedName
  | malformedText
  /-- A directory could not be made for want of the one above it. -/
  | incomplete
  /-- What else the system has to say. -/
  | other (text : String)
  deriving DecidableEq, Repr

def Error.message : Error → String
  | notFound => "No such file or directory (os error 2)"
  | permissionDenied => "Permission denied (os error 13)"
  | alreadyExists => "File exists (os error 17)"
  | notADirectory => "Not a directory (os error 20)"
  | isADirectory => "Is a directory (os error 21)"
  | nameTooLong => "File name too long (os error 36)"
  | tooManyLinks => "Too many levels of symbolic links (os error 40)"
  | malformedName => "file name contained an unexpected NUL byte"
  | malformedText => "stream did not contain valid UTF-8"
  | incomplete => "failed to create whole tree"
  | other text => text

/-- What the program may do with a directory. -/
structure Access where
  list : Bool := true
  /-- Look up what is in it. -/
  search : Bool := true
  change : Bool := true
  deriving DecidableEq, Repr

inductive Node where
  /-- A file, with what comes of reading it. -/
  | file (content : Except Error (List UInt8)) (writable : Bool)
  | directory (access : Access) (children : List (String × Node))
  | link (target : Path)
  /-- The system cannot tell what it is. -/
  | lost (fault : Error)
  deriving Inhabited

namespace Node

def empty : Node := directory {} []

def ofBytes (bytes : List UInt8) : Node := file (.ok bytes) true

/-- The node under a list of names, which are not looked through. -/
def at? (node : Node) : List String → Option Node
  | [] => some node
  | name :: rest =>
    match node with
    | directory _ children =>
      match children.lookup name with
      | some child => child.at? rest
      | none => none
    | _ => none

/-- Puts a node under a list of names; directories on the way are made as needed, and anything else
on the way is in the way. -/
def put? (node : Node) (names : List String) (new : Node) : Option Node :=
  match names with
  | [] => some new
  | name :: rest =>
    match node with
    | directory access children =>
      let child := (children.lookup name).getD empty
      (child.put? rest new).map fun child =>
        if children.any (·.1 == name) then
          directory access (children.map fun c => if c.1 == name then (name, child) else c)
        else directory access (children ++ [(name, child)])
    | _ => none

/-- What comes of reading it as a text. -/
def text : Node → Except Error String
  | file content _ => do
    match Text.Utf8.decode (← content) with
    | .ok cs => return String.ofList cs
    | .error _ => throw .malformedText
  | directory access _ => throw (if access.list then .isADirectory else .permissionDenied)
  | link _ => throw .tooManyLinks
  | lost fault => throw fault

end Node

/-- A tree, and the directory in which relative paths start. -/
structure Tree where
  root : Node
  current : List String := []

/-- Where a way ends. -/
inductive Spot where
  | taken (place : List String)
  /-- Only the last name is missing. -/
  | free (place : List String) (name : String)

/-- What a component turns out to be. -/
inductive Look where
  | moves (place : List String)
  | turns (target : Path)
  | missing
  | fails (fault : Error)

/-- A way up to its end, or to the first link. -/
inductive Stretch where
  | rests (spot : Spot)
  | turns (place : List String) (target : Path) (rest : List String)
  | fails (fault : Error)

/-- The longest text of a path, in bytes, with the one that ends it. -/
def pathLimit : Nat := 4096

/-- The longest name in a directory, in bytes. -/
def nameLimit : Nat := 255

/-- The most links on one way. -/
def linkLimit : Nat := 40

namespace Path

/-- The bytes of its text. -/
def size (p : Path) : Nat := p.render.utf8ByteSize

/-- What the system finds wrong with a text before it looks for anything. -/
def fault? (p : Path) : Option Error :=
  if p.names.any (·.toList.contains '\x00') then some .malformedName
  else if pathLimit ≤ p.size then some .nameTooLong
  else if p.size = 0 then some .notFound
  else none

end Path

namespace Tree

/-- Where a path starts that is found in this place. -/
def origin (place : List String) (p : Path) : List String :=
  if p.start = .root then [] else place

/-- Looks up one component in a place. -/
def look (root : Node) (place : List String) (name : String) : Look :=
  match root.at? place with
  | some (.directory access children) =>
    -- a slash at the end asks for a directory and for nothing in it
    if name = "" then .moves place
    else if !access.search then .fails .permissionDenied
    else if name = "." then .moves place
    else if name = ".." then .moves place.dropLast
    else if nameLimit < name.utf8ByteSize then .fails .nameTooLong
    else
      match children.lookup name with
      | some (.file _ _) | some (.directory _ _) => .moves (place ++ [name])
      | some (.link target) => .turns target
      | some (.lost fault) => .fails fault
      | none => .missing
  | some (.lost fault) => .fails fault
  | some (.file _ _) | some (.link _) => .fails .notADirectory
  | none => .fails .notFound

/-- Follows components from a place up to the first link. -/
def advance (root : Node) (place : List String) : List String → Stretch
  | [] => .rests (.taken place)
  | name :: rest =>
    match look root place name with
    | .moves place => advance root place rest
    | .turns target => .turns place target rest
    | .missing => if rest.isEmpty then .rests (.free place name) else .fails .notFound
    | .fails fault => .fails fault

/-- Follows components from a place, and links where they turn up. The answer also tells how many
more links could have been followed. -/
def walk (root : Node) (links : Nat) (place names : List String) : Except Error (Spot × Nat) :=
  match advance root place names with
  | .rests spot => .ok (spot, links)
  | .fails fault => .error fault
  | .turns place target rest =>
    match links with
    | 0 => .error .tooManyLinks
    | links + 1 => walk root links (origin place target) (target.names ++ rest)

/-- Where a path leads to. -/
def spot (t : Tree) (p : Path) : Except Error Spot :=
  match p.fault? with
  | some fault => .error fault
  | none => (walk t.root linkLimit (origin t.current p) p.names).map Prod.fst

/-- The place that a path leads to, where something has to stand. -/
def resolve (t : Tree) (p : Path) : Except Error (List String) := do
  match ← t.spot p with
  | .taken place => return place
  | .free _ _ => throw .notFound

/-- What stands where a path leads to. -/
def node (t : Tree) (p : Path) : Except Error Node := do
  match t.root.at? (← t.resolve p) with
  | some node => return node
  | none => throw .notFound

/-- Whatever the system says instead, there is nothing. -/
def exists? (t : Tree) (p : Path) : Bool :=
  (t.node p).toBool

def isDirectory (t : Tree) (p : Path) : Bool :=
  match t.node p with
  | .ok (.directory _ _) => true
  | _ => false

def readText (t : Tree) (p : Path) : Except Error String := do
  (← t.node p).text

/-- Puts something new into a directory. -/
def create (t : Tree) (place : List String) (name : String) (new : Node) : Except Error Tree :=
  match t.root.at? place with
  | some (.directory access _) =>
    if !access.change then .error .permissionDenied
    else
      match t.root.put? (place ++ [name]) new with
      | some root => .ok { t with root }
      | none => .error .notADirectory
  | _ => .error .notADirectory

/-- Makes one directory. A link in its place is not looked through. -/
def makeOne (t : Tree) (p : Path) : Except Error Tree := do
  if let some fault := p.fault? then throw fault
  let names := (p.names.reverse.dropWhile (· == "")).reverse
  let some name := names.getLast? | throw .alreadyExists
  match ← walk t.root linkLimit (origin t.current p) names.dropLast with
  | (.free _ _, _) => throw .notFound
  | (.taken place, _) =>
    match look t.root place name with
    | .missing => t.create place name .empty
    | .moves _ | .turns _ => throw .alreadyExists
    | .fails fault => throw fault

/-- A directory that is there already will do. -/
def keepOne (t : Tree) (p : Path) : Except Error Tree :=
  match t.makeOne p with
  | .ok made => .ok made
  | .error fault => if t.isDirectory p then .ok t else .error fault

/-- Makes a directory and what is missing above it, in as many steps. -/
def makeUp (t : Tree) (p : Path) : Nat → Except Error Tree
  | 0 => .error .incomplete
  | n + 1 =>
    match t.makeOne p with
    | .error .notFound => do
      let some up := p.parent? | throw .incomplete
      let t ← if up.parts.isEmpty && up.start != .root then pure t else t.makeUp up n
      t.keepOne p
    | _ => t.keepOne p

def makeDirectory (t : Tree) (p : Path) : Except Error Tree :=
  if p.parts.isEmpty && p.start != .root then .ok t else t.makeUp p (p.parts.length + 1)

def writeText (t : Tree) (p : Path) (text : String) : Except Error Tree := do
  let bytes := Text.Utf8.encode text.toList
  match ← t.spot p with
  | .free place name => t.create place name (.ofBytes bytes)
  | .taken place =>
    match t.root.at? place with
    | some (.file content writable) =>
      if !writable then throw .permissionDenied
      match t.root.put? place (.file (content.map fun _ => bytes) writable) with
      | some root => return { t with root }
      | none => throw .notADirectory
    | _ => throw .isADirectory

end Tree
end Dialback.Files
