import Dialback.Session.State

/-!
What can happen to a session. Moves are the session's own and take no time. Events come from the
surroundings: the remote end, the sink, the handlers, the caller and the clock.

Everything is one relation: `act` answers `none` for an action that is not enabled, and any order
of enabled actions is a run. Which of several enabled actions comes first is left open, except
where the serving loop itself prefers one: stop, then a failure of the writer, then the end of a
job, then what has arrived, then silence. Nor is it said how soon a move is made: time may pass
meanwhile. Where times matter, `actPromptly` does not let it pass while a move is enabled, nor
beyond the limit of a phase.

Aborting reaches one job after another, in no particular order. A job that it has not reached yet
goes on as before, and one that is being run when it is reached goes on until it next has to wait.
So as long as it has not been torn down, a job may take any step that it could take otherwise.
-/
namespace Dialback.Session

variable {α γ θ ρ : Type}

inductive Event (γ θ ρ : Type) where
  | arrive (inbound : Inbound γ θ)
  | stop
  | cancel
  | introduced
  | introductionFailed (fault : TransportFault)
  /-- The caller begins to serve. -/
  | serve
  /-- A handler returns. -/
  | answer (job : Nat) (response : Response ρ)
  /-- A handler panics. -/
  | panic (job : Nat)
  | wrote
  | writeFailed (fault : TransportFault)
  | writerCrashed
  | closed
  | closeFailed (fault : TransportFault)
  | elapse (time : Nat)
  deriving DecidableEq, Repr

inductive Move where
  | cancelConnect
  | readFirst
  | giveUpConnecting
  | heedStop
  | heedWriter
  | join (job : Nat)
  | read
  | overrun
  | giveUpServicing
  | drained
  | drainOver
  | abort (job : Nat)
  | aborted
  | settle
  | ask (job : Nat)
  | start (job : Nat)
  | place (job : Nat)
  | refuse (job : Nat)
  | pick
  deriving DecidableEq, Repr

/-! Ends. -/

/-- The session is over and its sink is gone. -/
def finish (s : Session α γ θ ρ) (outcome : Outcome) : Session α γ θ ρ :=
  { s with
    phase := .ended outcome s.now
    outbox := (s.outbox.step .drop).getD s.outbox }

def fail (s : Session α γ θ ρ) (fault : CallFault) : Session α γ θ ρ :=
  s.finish (.failed fault)

/-- Servicing ends: gracefully, or by aborting whatever is in flight. -/
def leavingPhase (now : Nat) (terms : Terms θ) (cause : Cause) : Phase γ :=
  if cause.isGraceful then .draining cause (now + terms.settings.drainTimeoutMs.toNat)
  else .aborting cause

def leave (s : Session α γ θ ρ) (terms : Terms θ) (cause : Cause) : Session α γ θ ρ :=
  { s with phase := leavingPhase s.now terms cause }

/-- Both lanes of the outbox are closed by those who keep them open while servicing. -/
def flush? (s : Session α γ θ ρ) (cause : Cause) : Option (Session α γ θ ρ) := do
  let outbox ← s.outbox.run [.closePongs, .release, .release]
  return { s with outbox, phase := .flushing cause }

def outcomeOf (cause : Cause) (how : WriterEnd) : Outcome :=
  match cause, how with
  | .stopped, _ => .cancelled
  | .closed, _ => .completed
  | .fault fault, _ => .failed fault
  | .writerEnded, .writeFailed fault | .writerEnded, .closeFailed fault =>
    .failed (.transport fault)
  | .writerEnded, .closed _ => .failed .writerStopped
  | .writerEnded, .crashed | .writerEnded, .dropped => .failed (.transport .closed)

/-! Connecting. -/

def onFirst (s : Session α γ θ ρ) : Inbound γ θ → Session α γ θ ρ
  | .message (.connectResponse (.accepted payload)) =>
    { s with phase := .accepted payload, welcome := some (s.now, payload) }
  | .message (.connectResponse (.refused failure)) => s.fail (.refused failure)
  | .message .ping | .message (.request _) | .unclassified | .eof => s.fail .noConnectResponse
  | .fault fault => s.fail (.transport fault)

/-- The clock of a machine stops short of this many milliseconds, which are `2 ^ 63` seconds. -/
def clockLimit : Nat := 9_223_372_036_854_775_808_000

/-- There can be a queue and a semaphore of these sizes. -/
def hasRoom (settings : CallSettings) : Bool :=
  decide (settings.buffer ≤ Permits.most ∧ settings.permits ≤ Permits.most)

/-- When a silence that begins now is too long, if a connection can be serviced that long. The sizes
matter only where servicing begins, but they do not change. -/
def deadline? (terms : Terms θ) (now : Nat) : Option Nat := do
  guard (hasRoom terms.settings)
  let d ← terms.settings.pingTimeout?
  guard (terms.epoch + now + d.ticks < clockLimit)
  return now + d.ticks

/-- The silence limit starts anew. -/
def servingPhase (now : Nat) (terms : Terms θ) : Phase γ :=
  match deadline? terms now with
  | some limit => .servicing limit
  | none => .unserviceable

def serve (s : Session α γ θ ρ) (terms : Terms θ) : Session α γ θ ρ :=
  { s with phase := servingPhase s.now terms }

/-! Jobs. -/

def dispatch? (s : Session α γ θ ρ) (terms : Terms θ) (request : Request θ) :
    Option (Session α γ θ ρ) := do
  let partition := terms.partitionOf request
  let lanes := s.lanes.sweep terms.laneLimit s.finished
  let job : Job θ := { request, partition, behind := lanes.latest? partition }
  let outbox ← s.outbox.step .retain
  return { s with
    outbox
    lanes := lanes.assign partition s.jobs.length
    jobs := s.jobs ++ [job] }

/-- Nobody is left to wait for. -/
def released (s : Session α γ θ ρ) (t : Job θ) : Bool :=
  t.behind.all s.finished

def ask? (s : Session α γ θ ρ) (i : Nat) (t : Job θ) : Option (Session α γ θ ρ) :=
  if t.stage = .waiting ∧ s.released t then
    some { s.setJob i (t.withStage .inLine) with permits := s.permits.ask i }
  else none

def start? (s : Session α γ θ ρ) (i : Nat) (t : Job θ) : Option (Session α γ θ ρ) := do
  guard (t.stage = .inLine)
  let permits ← s.permits.enter? i
  return { s.setJob i { t with stage := .running, started := some s.now } with permits }

/-- The response carries the context of its request, and joins those that wait for room. -/
def answer? (s : Session α γ θ ρ) (i : Nat) (t : Job θ) (response : Response ρ) :
    Option (Session α γ θ ρ) := do
  guard (t.stage = .running)
  let message := ClientMessage.response (response.withContext t.request.context)
  let outbox ← s.outbox.step (.offer i message)
  return { s.setJob i { t with stage := .offering, answered := some s.now } with outbox }

/-- The job is over. It gives back its permit, if it holds one, leaves every line and drops its
handle of the outbox. -/
def endJob? (s : Session α γ θ ρ) (i : Nat) (t : Job θ) (how : JobEnd) :
    Option (Session α γ θ ρ) := do
  let outbox ← s.outbox.run [.withdraw i, .release]
  let permits := s.permits.withdraw i
  return { s.setJob i (t.withStage (.ended how)) with
    outbox
    permits := if t.stage.holdsPermit then permits.giveBack else permits }

def place? (s : Session α γ θ ρ) (i : Nat) (t : Job θ) : Option (Session α γ θ ρ) := do
  guard (t.stage = .offering)
  let outbox ← s.outbox.step (.place i)
  { s with outbox }.endJob? i t .queued

def refuse? (s : Session α γ θ ρ) (i : Nat) (t : Job θ) : Option (Session α γ θ ρ) := do
  guard (t.stage = .offering ∧ s.outbox.writer.hasEnded)
  s.endJob? i t .refused

/-! The serving loop. -/

/-- Nothing that the loop prefers to the end of a job has happened. -/
def undisturbed (s : Session α γ θ ρ) : Bool :=
  s.stop.isNone && !s.outbox.writer.reportsFailure

/-- Nothing that the loop prefers to what has arrived has happened. -/
def attentive (s : Session α γ θ ρ) : Bool :=
  s.undisturbed && !s.hasUnnoticed

def join? (s : Session α γ θ ρ) (terms : Terms θ) (i : Nat) (t : Job θ) :
    Option (Session α γ θ ρ) := do
  guard t.unnoticed
  let joined := s.setJob i { t with joined := true }
  match s.phase with
  | .servicing _ =>
    guard s.undisturbed
    if t.stage = .ended .panicked then
      return joined.leave terms (.fault .handlerPanicked)
    else return joined
  | .draining _ _ | .aborting _ => return joined
  | _ => none

/-- Every message moves the silence limit before anything else comes of it. -/
def Inbound.isMessage : Inbound γ θ → Bool
  | .message _ | .unclassified => true
  | .fault _ | .eof => false

/-- This message cannot move the silence limit. -/
def isOverdue (s : Session α γ θ ρ) (terms : Terms θ) (inbound : Inbound γ θ) : Bool :=
  inbound.isMessage && (deadline? terms s.now).isNone

def read? (s : Session α γ θ ρ) (terms : Terms θ) : Option (Session α γ θ ρ) :=
  match s.phase, s.inbox with
  | .servicing _, inbound :: rest =>
    if !s.attentive || s.isOverdue terms inbound then none
    else
      let s := { s with inbox := rest }
      match inbound with
      | .eof => some (s.leave terms .closed)
      | .fault fault => some (s.leave terms (.fault (.transport fault)))
      | .unclassified | .message (.connectResponse _) => some (s.serve terms)
      | .message .ping =>
        match s.outbox.step (.pong .pong) with
        | some outbox => some ({ s with outbox, pings := s.pings + 1 }.serve terms)
        | none => some ({ s with pings := s.pings + 1 }.leave terms .writerEnded)
      | .message (.request request) => (s.dispatch? terms request).map (·.serve terms)
  | _, _ => none

def onJob? (s : Session α γ θ ρ) (i : Nat)
    (f : Nat → Job θ → Option (Session α γ θ ρ)) : Option (Session α γ θ ρ) :=
  s.jobs[i]?.bind (f i)

/-- What the session does by itself. -/
def advance (s : Session α γ θ ρ) (terms : Terms θ) : Move → Option (Session α γ θ ρ)
  | .cancelConnect =>
    match s.phase with
    | .connecting _ => if s.cancel.isSome then some (s.finish .cancelled) else none
    | _ => none
  | .readFirst =>
    match s.phase, s.inbox with
    | .connecting _, inbound :: rest =>
      if s.cancel.isSome then none else some ({ s with inbox := rest }.onFirst inbound)
    | _, _ => none
  | .giveUpConnecting =>
    match s.phase, s.inbox with
    | .connecting limit, [] =>
      if s.cancel.isNone && decide (limit ≤ s.now) then some (s.fail .noConnectResponse) else none
    | _, _ => none
  | .heedStop =>
    match s.phase with
    | .servicing _ => if s.stop.isSome then some (s.leave terms .stopped) else none
    | _ => none
  | .heedWriter =>
    match s.phase with
    | .servicing _ =>
      if s.stop.isNone && s.outbox.writer.reportsFailure then some (s.leave terms .writerEnded)
      else none
    | _ => none
  | .join job => s.onJob? job (s.join? terms)
  | .read => s.read? terms
  | .overrun =>
    match s.phase, s.inbox with
    | .servicing _, inbound :: _ =>
      if s.attentive && s.isOverdue terms inbound then some { s with phase := .unserviceable }
      else none
    | _, _ => none
  | .giveUpServicing =>
    match s.phase, s.inbox with
    | .servicing limit, [] =>
      if s.attentive && decide (limit ≤ s.now) then
        terms.settings.pingTimeout?.map fun d => s.leave terms (.fault (.silent d))
      else none
    | _, _ => none
  | .drained =>
    match s.phase with
    | .draining cause _ => if s.allJoined then s.flush? cause else none
    | _ => none
  | .drainOver =>
    match s.phase with
    | .draining cause limit =>
      if !s.allJoined && !s.hasUnnoticed && decide (limit ≤ s.now) then
        some { s with phase := .aborting cause }
      else none
    | _ => none
  | .abort job =>
    if s.phase.isAborting then
      s.onJob? job fun i t => if t.hasEnded then none else s.endJob? i t .aborted
    else none
  | .aborted =>
    match s.phase with
    | .aborting cause =>
      if !s.allJoined then none
      else
        match cause with
        | .fault fault => some (s.fail fault)
        | _ => s.flush? cause
    | _ => none
  | .settle =>
    match s.phase, s.outbox.writer.ending? with
    | .flushing cause, some how => some (s.finish (outcomeOf cause how))
    | _, _ => none
  | .ask job => s.onJob? job s.ask?
  | .start job => s.onJob? job s.start?
  | .place job => s.onJob? job s.place?
  | .refuse job => s.onJob? job s.refuse?
  | .pick => (s.outbox.step (.pick s.now)).map fun outbox => { s with outbox }

/-- Jobs whose end has not been noticed yet. -/
def pendingJobs (s : Session α γ θ ρ) : List Nat :=
  (List.range s.jobs.length).filter fun i => s.jobs[i]?.any (!·.joined)

/-- Moves of the session's own loop, in its order of preference. -/
def loopMoves (s : Session α γ θ ρ) : List Move :=
  let jobs := s.pendingJobs
  [.cancelConnect, .readFirst, .giveUpConnecting, .heedStop, .heedWriter] ++
    jobs.map .join ++
    [.read, .overrun, .giveUpServicing, .drained, .drainOver] ++
    jobs.map .abort ++
    [.aborted, .settle]

def jobMoves (s : Session α γ θ ρ) : List Move :=
  s.pendingJobs.flatMap fun i => [.ask i, .start i, .place i, .refuse i]

/-- Every move that may be enabled. -/
def moves (s : Session α γ θ ρ) : List Move :=
  s.loopMoves ++ s.jobMoves ++ [.pick]

/-- No move is enabled. -/
def isQuiet (s : Session α γ θ ρ) (terms : Terms θ) : Bool :=
  s.moves.all fun m => (s.advance terms m).isNone

def sink (s : Session α γ θ ρ) (a : Outbox.Action (ClientMessage α ρ)) :
    Option (Session α γ θ ρ) :=
  (s.outbox.step a).map fun outbox => { s with outbox }

/-- What happens to the session. -/
def receive (s : Session α γ θ ρ) (terms : Terms θ) : Event γ θ ρ → Option (Session α γ θ ρ)
  | .arrive inbound => some { s with inbox := s.inbox ++ [inbound] }
  | .stop => if s.stop.isNone then some { s with stop := some s.now } else none
  | .cancel => if s.cancel.isNone then some { s with cancel := some s.now } else none
  | .introduced =>
    match s.phase with
    | .introducing =>
      some { s with
        introduced := some s.now
        phase := .connecting (s.now + terms.settings.connectTimeoutMs.toNat) }
    | _ => none
  | .introductionFailed fault =>
    match s.phase with
    | .introducing => some (s.fail (.transport fault))
    | _ => none
  | .serve =>
    match s.phase with
    | .accepted _ => some (s.serve terms)
    | _ => none
  | .answer job response => s.onJob? job fun i t => s.answer? i t response
  | .panic job =>
    s.onJob? job fun i t => if t.stage = .running then s.endJob? i t .panicked else none
  | .wrote => s.sink (.wrote s.now)
  | .writeFailed fault => s.sink (.writeFailed fault)
  | .writerCrashed => s.sink .crashed
  | .closed => s.sink (.closed s.now)
  | .closeFailed fault => s.sink (.closeFailed fault)
  | .elapse time => if s.now < time then some { s with now := time } else none

def Move.byLoop : Move → Bool
  | .ask _ | .start _ | .place _ | .refuse _ | .pick => false
  | _ => true

inductive Action (γ θ ρ : Type) where
  | move (m : Move)
  | event (e : Event γ θ ρ)
  deriving DecidableEq, Repr

def Action.byLoop : Action γ θ ρ → Bool
  | .move m => m.byLoop
  | .event _ => false

def act (s : Session α γ θ ρ) (terms : Terms θ) : Action γ θ ρ → Option (Session α γ θ ρ)
  | .move m => s.advance terms m
  | .event e => s.receive terms e

/-- Nothing is left to do before this time. -/
def mayWait (s : Session α γ θ ρ) (terms : Terms θ) (time : Nat) : Bool :=
  s.isQuiet terms && s.phase.limit?.all (time ≤ ·)

/-- Everything is done as soon as it can be. -/
def actPromptly (s : Session α γ θ ρ) (terms : Terms θ) :
    Action γ θ ρ → Option (Session α γ θ ρ)
  | .event (.elapse time) =>
    if s.mayWait terms time then s.act terms (.event (.elapse time)) else none
  | a => s.act terms a

/-- One action after another, as long as they are enabled. -/
def run (s : Session α γ θ ρ) (terms : Terms θ) (actions : List (Action γ θ ρ)) :
    Option (Session α γ θ ρ) :=
  actions.foldlM (fun s a => s.act terms a) s

end Dialback.Session
