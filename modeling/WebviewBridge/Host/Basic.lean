import WebviewBridge.Host.Procedure

/-!
# Hosts

A host is what its handlers share: the state, the events told to the editor, the files, the clock
and the log.  This module says what each effect of a procedure does to a host and to the session
of the message, and runs procedures.
-/

namespace WebviewBridge

/-- What the handlers of a host share. -/
structure Host where
  state : HostState := {}
  keeper : StateKeeper := .notStarted
  /-- The commands that the keeper has not applied yet, oldest first. -/
  queue : List StateCommand := []
  /-- The number of commands that the keeper has applied. -/
  applied : Nat := 0
  /-- Whether anyone takes events. -/
  listened : Bool := true
  /-- The events told so far, oldest first. -/
  events : List HostEvent := []
  files : FileTree := .empty
  /-- Milliseconds since the epoch. -/
  now : UInt64 := 0
  log : List LogEntry := []

namespace Host

/-- Writes entries to the log. -/
def note (h : Host) (entries : List LogEntry) : Host := { h with log := h.log ++ entries }

/-! ## Commands -/

/-- Calls the keeper, which starts when it is first called. -/
def callKeeper (h : Host) : Host :=
  match h.keeper with
  | .notStarted => { h with keeper := .running }.note [.bridge .info "Host state actor spawned"]
  | .running | .stopped => h

/-- Puts a command into the queue; gives its place among all commands. -/
def enqueue (h : Host) (c : StateCommand) : Host × Except HostError Ticket :=
  if h.keeper = .stopped then (h, .error (.state "State actor died: channel closed"))
  else ({ h with queue := h.queue ++ [c] }, .ok ⟨h.applied + h.queue.length⟩)

/-- The keeper applies the first command of the queue. -/
def applyNext (h : Host) : Host :=
  match h.queue with
  | [] => h
  | c :: rest =>
    { h with state := h.state.apply c, queue := rest, applied := h.applied + 1 }.note
      (h.state.applyLog c)

/-- The keeper applies all commands of the queue. -/
def applyQueue (h : Host) : Host := h.queue.foldl (fun h _ => h.applyNext) h

/-- What became of the command in a place, once that is known. -/
def outcome? (h : Host) (t : Ticket) : Option (Except HostError Unit) :=
  if t.number < h.applied then some (.ok ())
  else if h.keeper = .stopped then some (.error (.state "State actor dropped the command"))
  else none

/-- The keeper stops; the commands that wait are lost. -/
def stopKeeper (h : Host) : Host := { h with keeper := .stopped, queue := [] }

/-- Has a command applied, after those that wait, while nobody else does anything. -/
def update (h : Host) (c : StateCommand) : Host × Except HostError Unit :=
  match h.callKeeper.enqueue c with
  | (h, .ok _) => (h.applyQueue, .ok ())
  | (h, .error e) => (h, .error e)

/-! ## Effects -/

/-- Tells the editor about an event, if it listens. -/
def emit (h : Host) (e : HostEvent) : Host :=
  if h.listened then { h with events := h.events ++ [e] } else h

/-- A host without the events and the log of the past. -/
def forget (h : Host) : Host := { h with events := [], log := [] }

/-- Changes files. -/
def change (h : Host) (op : FileOp) : Host × Except IoError Unit :=
  let (files, outcome) := op.run h.files
  ({ h with files }, outcome)

/-- Does what an effect asks for. -/
def perform (h : Host) (s : Session) : (e : Effect) → Host × Session × e.Answer
  | .update c => let (h, r) := h.update c; (h, s, r)
  | .creatorState => (h, s, h.state.creator)
  | .credentials => (h, s, h.state.credentials)
  | .emit e => (h.emit e, s, ())
  | .send m => let (s, r) := s.send m; (h, s, r)
  | .recordPong => (h, s.recordPong, ())
  | .change op => let (h, r) := h.change op; (h, s, r)
  | .readText path => (h, s, h.files.readText path)
  | .clock => (h, s, h.now)
  | .pause _ => (h, s, ())
  | .log entry => (h.note [entry], s, ())

end Host

/-- How far a procedure came: to its end, or to a pause with something left to do. -/
inductive Progress (α : Type) where
  | finished (result : α)
  | paused (ms : Nat) (rest : Procedure α)

namespace Procedure

variable {α : Type}

/-- Runs a procedure to its end, without waiting at pauses. -/
def run : Procedure α → Host → Session → Host × Session × α
  | done a, h, s => (h, s, a)
  | perform e next, h, s =>
    let (h, s, x) := h.perform s e
    (next x).run h s

/-- Runs a procedure up to its first pause. -/
def proceed : Procedure α → Host → Session → Host × Session × Progress α
  | done a, h, s => (h, s, .finished a)
  | perform (.pause (ms + 1)) next, h, s => (h, s, .paused (ms + 1) (next ()))
  | perform e next, h, s =>
    let (h, s, x) := h.perform s e
    (next x).proceed h s

end Procedure

end WebviewBridge
