import Dialback.Fault

/-!
An in-process transport. Connecting makes a pair of ends; the server's end waits in line until the
listener accepts it. Each end has a sending and a receiving half, and is gone once both halves are.
Nothing here waits: what would have to wait is `pending`.
-/
namespace Dialback

namespace Memory

inductive Side where
  | client
  | server
  deriving DecidableEq, Repr

def Side.other : Side → Side
  | client => server
  | server => client

/-- What is under way to each side of one connection, oldest first. -/
structure Link (μ : Type) where
  toClient : List μ := []
  toServer : List μ := []
  deriving DecidableEq, Repr

namespace Link

variable {μ : Type}

def incoming (l : Link μ) : Side → List μ
  | .client => l.toClient
  | .server => l.toServer

def setIncoming (l : Link μ) (side : Side) (ms : List μ) : Link μ :=
  match side with
  | .client => { l with toClient := ms }
  | .server => { l with toServer := ms }

end Link

/-- One end of a connection, as far as it still exists. -/
structure End where
  link : Nat
  side : Side
  sender : Bool := true
  receiver : Bool := true
  deriving DecidableEq, Repr

def End.isAlive (e : End) : Bool :=
  e.sender || e.receiver

inductive Missing where
  | connector
  | listener
  | sender
  | receiver
  deriving DecidableEq, Repr

inductive Answer (μ : Type) where
  | done
  | failed (fault : TransportFault)
  | message (m : μ)
  | pending
  | ended
  | missing (what : Missing)
  | count (n : Nat)
  deriving DecidableEq, Repr

end Memory

open Memory in
/-- The transport with all its ends, which have names. -/
structure Memory (μ : Type) where
  links : List (Link μ) := []
  /-- Connections whose server's end has not been accepted, oldest first. -/
  backlog : List Nat := []
  ends : List (String × End) := []
  connectors : Nat := 1
  listening : Bool := true
  deriving DecidableEq, Repr

namespace Memory

variable {μ : Type}

inductive Op (μ : Type) where
  | connect (name : String)
  | accept (name : String)
  | send (name : String) (m : μ)
  | receive (name : String)
  | close (name : String)
  | drop (name : String)
  | dropSender (name : String)
  | dropReceiver (name : String)
  | cloneConnector
  | dropConnector
  | dropListener
  deriving DecidableEq, Repr

def end? (t : Memory μ) (name : String) : Option End :=
  t.ends.lookup name

/-- An end that takes the name of another one replaces it. -/
def setEnd (t : Memory μ) (name : String) (e : End) : Memory μ :=
  { t with ends := (name, e) :: t.ends.filter fun x => x.1 != name }

def editEnd (t : Memory μ) (name : String) (f : End → End) : Memory μ :=
  { t with ends := t.ends.map fun x => if x.1 == name then (name, f x.2) else x }

/-- A server's end that waits to be accepted exists with the listener. -/
def isAlive (t : Memory μ) (link : Nat) (side : Side) : Bool :=
  (side == .server && t.backlog.contains link) ||
    t.ends.any fun x => x.2.link == link && x.2.side == side && x.2.isAlive

def incoming (t : Memory μ) (e : End) : List μ :=
  (t.links[e.link]?.map (·.incoming e.side)).getD []

def deliver (t : Memory μ) (link : Nat) (side : Side) (ms : List μ) : Memory μ :=
  { t with links := t.links.modify link fun l => l.setIncoming side ms }

def refusal : TransportFault :=
  .channel "an error occurred readying to send into the channel"

def connect (t : Memory μ) (name : String) : Memory μ × Answer μ :=
  if t.connectors = 0 then (t, .missing .connector)
  else if !t.listening then (t, .failed (.connect "memory listener closed"))
  else
    let link := t.links.length
    let t := { t with links := t.links ++ [({} : Link μ)], backlog := t.backlog ++ [link] }
    (t.setEnd name { link, side := .client }, .done)

def accept (t : Memory μ) (name : String) : Memory μ × Answer μ :=
  if !t.listening then (t, .missing .listener)
  else
    match t.backlog with
    | link :: rest => ({ t with backlog := rest }.setEnd name { link, side := .server }, .done)
    | [] => (t, if t.connectors = 0 then .ended else .pending)

/-- A message goes to the other end, which need not read it; once that end is gone, sending fails
and the sending half with it. -/
def send (t : Memory μ) (name : String) (m : μ) : Memory μ × Answer μ :=
  match t.end? name with
  | some e =>
    if !e.sender then (t, .missing .sender)
    else
      let peer := e.side.other
      if t.isAlive e.link peer then
        (t.deliver e.link peer (t.incoming { e with side := peer } ++ [m]), .done)
      else (t.editEnd name fun e => { e with sender := false }, .failed refusal)
  | none => (t, .missing .sender)

/-- What was sent before the other end went is still received. -/
def receive (t : Memory μ) (name : String) : Memory μ × Answer μ :=
  match t.end? name with
  | some e =>
    if !e.receiver then (t, .missing .receiver)
    else
      match t.incoming e with
      | m :: rest => (t.deliver e.link e.side rest, .message m)
      | [] => (t, if t.isAlive e.link e.side.other then .pending else .ended)
  | none => (t, .missing .receiver)

/-- Closing flushes what there is to flush; it does not end the stream. -/
def close (t : Memory μ) (name : String) : Memory μ × Answer μ :=
  (t, if (t.end? name).any End.sender then .done else .missing .sender)

def step (t : Memory μ) : Op μ → Memory μ × Answer μ
  | .connect name => t.connect name
  | .accept name => t.accept name
  | .send name m => t.send name m
  | .receive name => t.receive name
  | .close name => t.close name
  | .drop name => ({ t with ends := t.ends.filter fun x => x.1 != name }, .done)
  | .dropSender name => (t.editEnd name fun e => { e with sender := false }, .done)
  | .dropReceiver name => (t.editEnd name fun e => { e with receiver := false }, .done)
  | .cloneConnector =>
    let n := if t.connectors = 0 then 0 else t.connectors + 1
    ({ t with connectors := n }, .count n)
  | .dropConnector =>
    let n := t.connectors - 1
    ({ t with connectors := n }, .count n)
  | .dropListener => ({ t with listening := false, backlog := [] }, .done)

/-- The answers to a list of operations. -/
def run (t : Memory μ) : List (Op μ) → List (Answer μ)
  | [] => []
  | op :: rest =>
    let (t, answer) := t.step op
    answer :: t.run rest

end Memory
end Dialback
