import Dialback.CommandLine.Options

/-!
The commands of the tool and how they are written.
-/
namespace Dialback.CommandLine

inductive Command where
  /-- Writes default settings into a directory. -/
  | init (directory : Option String)
  /-- Runs a demo runtime. -/
  | serve (address : String) (handshakeAddress : Option String) (requestIntervalMs : Nat)
  /-- Registers an echo processor. -/
  | register (settings address handshakeAddress : Option String)
  deriving DecidableEq, Repr

inductive Invocation where
  | version
  | help
  | run (command : Command)
  deriving DecidableEq, Repr

namespace Command

def verbose : OptionSpec where
  name := "verbose"
  letter := some 'v'
  takesValue := false

def help : OptionSpec where
  name := "help"
  letter := some 'h'
  takesValue := false
  final := true

def version : OptionSpec where
  name := "version"
  letter := some 'V'
  takesValue := false
  final := true

def address : OptionSpec where
  name := "addr"
  letter := some 'a'

def handshakeAddress : OptionSpec where
  name := "handshake-addr"

def directory : OptionSpec where
  name := "path"
  letter := some 'p'

def requestInterval : OptionSpec where
  name := "request-interval-ms"
  letter := some 'r'

def settings : OptionSpec where
  name := "config"
  letter := some 'c'

def standardAddress : String := "127.0.0.1:50053"

def standardIntervalMs : Nat := 1000

/-- No command takes words besides its options. -/
def withOptions (specs : List OptionSpec) (words : List String)
    (make : (OptionSpec → Option String) → Option Command) : Option Invocation :=
  match Options.parse (specs ++ [verbose, help]) [] words with
  | .given values [] => (make fun spec => values.lookup spec.name).map .run
  | .given _ (_ :: _) | .misused => none
  | .final _ => some .help

def milliseconds? (text : String) : Option Nat :=
  Text.numeralBelow? UInt64.size text.toList

/-- What help can be asked for by name. -/
def helpTopics : List (List String) :=
  [[], ["init"], ["serve"], ["register"], ["help"]]

def ofName? (name : String) (words : List String) : Option Invocation :=
  match name with
  | "init" => withOptions [directory] words fun value => some (.init (value directory))
  | "serve" =>
    withOptions [address, handshakeAddress, requestInterval] words fun value => do
      let interval ←
        match value requestInterval with
        | some text => milliseconds? text
        | none => some standardIntervalMs
      return .serve ((value address).getD standardAddress) (value handshakeAddress) interval
  | "register" =>
    withOptions [settings, address, handshakeAddress] words fun value =>
      some (.register (value settings) (value address) (value handshakeAddress))
  | "help" => if helpTopics.contains words then some .help else none
  | _ => none

end Command

/-- What a command line asks for; `none` if it is not understood. -/
def Invocation.parse (words : List String) : Option Invocation :=
  match Options.parse [Command.verbose, Command.help, Command.version] [] words with
  | .final "version" => some .version
  | .final _ => some .help
  | .given _ (name :: rest) => Command.ofName? name rest
  | .given _ [] | .misused => none

end Dialback.CommandLine
