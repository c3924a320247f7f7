import Dialback.CommandLine.Command
import Dialback.Network
import Dialback.Registration.Script
import Dialback.Runtime
import Dialback.Settings.Lookup

/-!
What the commands do on a host: what they print, which file they write and how they exit. Nothing
but the retry delays takes time.
-/
namespace Dialback.CommandLine

open Files (Path Tree)

/-- A processor that answers texts with texts. -/
abbrev EchoRegistration := Registration ProcessorId String String String

/-- What a command finds. -/
structure Host where
  files : Tree
  network : Network
  /-- The identifier that a new processor gets. -/
  processor : ProcessorId
  /-- What a runtime that can be reached sends on each connection, and when. The last entry stands
  for all that follow. -/
  remote : List (List (Nat × Session.Inbound String String)) := [[]]
  /-- The runtime's answer to a handshake. -/
  greeting : Option Handshake.Response := none
  /-- What happens on the connections of a served runtime until it is interrupted. -/
  callers : List (List Runtime.Event) := []

structure Report where
  exit : UInt32 := 0
  stdout : String := ""
  stderr : String := ""
  files : Tree
  /-- The file that was written, with its text. -/
  wrote : Option (String × String) := none
  /-- What became of a registration. -/
  registration : Option EchoRegistration := none

def lines (ls : List String) : String :=
  String.join (ls.map (· ++ "\n"))

/-- Causes are indented, and numbered if there are several. -/
def indentCause (number : Option Nat) (cause : String) : String :=
  let first :=
    match number with
    | some n => "    " ++ toString n ++ ": "
    | none => "    "
  let others := if number.isSome then "       " else "    "
  match cause.splitOn "\n" with
  | [] => first
  | head :: tail => "\n".intercalate ((first ++ head) :: tail.map (others ++ ·))

def failureText (summary : String) (causes : List String) : String :=
  let shown :=
    match causes with
    | [] => []
    | [cause] => ["", "Caused by:", indentCause none cause]
    | _ => ["", "Caused by:"] ++ causes.mapIdx fun i cause => indentCause (some i) cause
  lines (("Error: " ++ summary) :: shown)

def causesOf (fault : SettingsFault) : List String :=
  match fault with
  | .read _ text => [fault.message, text]
  | .parse => [fault.message, ""]
  | .version _ | .invalid _ => [fault.message]

namespace Host

def versionLine : String := "revcall 0.3.0"

/-- A path and a name below it, as text. -/
def joinText (directory name : String) : String :=
  if directory.isEmpty || directory.endsWith "/" then directory ++ name
  else directory ++ "/" ++ name

def nextSteps : List String :=
  ["", "Next steps:", "  1. revcall serve", "  2. revcall register"]

/-- Existing settings are left alone. -/
def init (h : Host) (directory : Option String) : Report :=
  let directory := directory.getD (Settings.here h.files).render
  let target := joinText directory Settings.fileName
  let opening := "→ Initializing revcall config..."
  let failed (what : String) (fault : Files.Error) : Report := {
    exit := 1
    stdout := lines [opening]
    stderr := failureText what [fault.message]
    files := h.files }
  if h.files.exists? (.ofString target) then
    { stdout := lines ([opening, "  • " ++ target ++ " already exists"] ++ nextSteps)
      files := h.files }
  else
    match h.files.makeDirectory (.ofString directory) with
    | .error fault => failed ("Failed to create " ++ directory) fault
    | .ok files =>
      let text := (Settings.render? {}).getD ""
      match files.writeText (.ofString target) text with
      | .error fault => failed ("Failed to write " ++ target) fault
      | .ok files =>
        { stdout := lines ([opening, "  ✓ Created " ++ target] ++ nextSteps)
          files
          wrote := some (target, text) }

/-- The demo runtime listens until it is interrupted. -/
def serve (h : Host) (address : String) (handshakeAddress : Option String) : Report :=
  let watched := h.callers.flatMap fun events => (Runtime.Conversation.run {} events).shown
  let rec listen (said : List String) : List (String × String) → Report
    | [] =>
      { stdout := lines (said ++ watched ++ ["runtime Shutting down"]), files := h.files }
    | (what, address) :: rest =>
      match Address.parse address with
      | .error fault =>
        { exit := 1
          stdout := lines said
          stderr := failureText fault.message []
          files := h.files }
      | .ok _ => listen (said ++ ["ready " ++ what ++ " listening on " ++ address]) rest
  listen [] ((handshakeAddress.map ("Handshake", ·)).toList ++ [("Runtime", address)])

def loadSettings (h : Host) (path : Option String) : Except (String × SettingsFault) Settings :=
  match path with
  | some path =>
    (Settings.load h.files path (.ofString path)).mapError fun e => ("Failed to load " ++ path, e)
  | none => (Settings.discover h.files).mapError fun e => ("Failed to load " ++ Settings.fileName, e)

/-- The processor's answer to a request. -/
def echo (request : Request String) : Response String :=
  { payload := "echo: " ++ request.payload }

def surroundings (h : Host) (s : Settings) : Registration.Script String String String where
  dials :=
    match h.network.connect s.address with
    | .error fault => [.fails 0 fault]
    | .ok _ => h.remote.map fun arrivals =>
      .opens 0 { arrivals, conduct := fun _ => .reply 0, respond := fun request _ => echo request }
  exchanges := s.handshakeAddress.toList.map fun address =>
    match h.network.connect address with
    | .error fault => { answer := some (.error fault) }
    | .ok _ => { answer := h.greeting.map .ok }

def plan (h : Host) (s : Settings) : Registration.Plan ProcessorId String where
  processor := h.processor
  execution := default
  terms := { settings := s.call, partitionOf := fun _ => .unpartitioned }
  handshake := if s.handshakeAddress.isSome then s.handshake.client.toOption else none
  policy := s.retry.backoff.policy
  arguments id _ := { payload := id }

/-- Registrations that outlast this many actions are taken to go on for ever. -/
def patience : Nat := 1000000

def register (h : Host) (settings address handshakeAddress : Option String) : Report :=
  match h.loadSettings settings with
  | .error (what, fault) =>
    { exit := 1, stderr := failureText what (causesOf fault), files := h.files }
  | .ok s =>
    let s := { s with
      address := address.getD s.address
      handshakeAddress := handshakeAddress <|> s.handshakeAddress }
    let opening := "processor Registering processor " ++ h.processor.render ++ " with " ++
      s.address ++ "..."
    let r : EchoRegistration := (h.surroundings s).play (h.plan s) patience {} { identifiers := ⟨1⟩ }
    let connected := r.welcomes.map fun (_, attempt, greeting) =>
      s!"ready Connected on attempt {attempt}: " ++ greeting
    let ended (exit : UInt32) (said : List String) (stderr : String) : Report :=
      { exit
        stdout := lines (opening :: connected ++ said)
        stderr
        files := h.files
        registration := some r }
    match r.ending? with
    | none => ended 0 [] ""
    | some (.gaveUp fault, _) => ended 1 [] (failureText fault.message [])
    | some (.completed n, _) =>
      ended 0 [s!"processor Runtime closed the stream after {n} attempt(s)"] ""
    | some (.stopped n, _) => ended 0 [s!"processor Stopped after {n} attempt(s)"] ""

def run (h : Host) : Command → Report
  | .init directory => h.init directory
  | .serve address handshakeAddress _ => h.serve address handshakeAddress
  | .register settings address handshakeAddress => h.register settings address handshakeAddress

/-- A misused command line exits with two. The texts of help and of misuse are not modelled. -/
def invoke (h : Host) (words : List String) : Report :=
  match Invocation.parse words with
  | none => { exit := 2, files := h.files }
  | some .help => { files := h.files }
  | some .version => { stdout := lines [versionLine], files := h.files }
  | some (.run command) => h.run command

end Host
end Dialback.CommandLine
