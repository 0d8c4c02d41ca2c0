import WebviewBridge.Files.Step
import WebviewBridge.Host.Session
import WebviewBridge.Host.State

/-!
# Procedures

What a host does about a message is a procedure: a tree whose nodes are single effects on what
the host shares with all its sessions, or on the session of the message.  How a procedure goes on
depends on the answer of each effect.  A procedure can be run to its end, stopped at a pause, or
taken apart effect by effect next to others.
-/

namespace WebviewBridge

/-- A single effect of a procedure. -/
inductive Effect where
  /-- Has a command applied to the state of the host. -/
  | update (command : StateCommand)
  /-- Looks at the creator's mode. -/
  | creatorState
  /-- Looks at the credentials. -/
  | credentials
  /-- Tells the editor about an event. -/
  | emit (event : HostEvent)
  /-- Sends a message to the session. -/
  | send (message : IncomingMessage)
  /-- Counts a pong of the session. -/
  | recordPong
  /-- Changes files. -/
  | change (op : FileOp)
  /-- Reads a file as text. -/
  | readText (path : String)
  /-- Looks at the clock: milliseconds since the epoch. -/
  | clock
  /-- Waits for some milliseconds. -/
  | pause (ms : Nat)
  | log (entry : LogEntry)

/-- What an effect answers. -/
def Effect.Answer : Effect → Type
  | update _ => Except HostError Unit
  | creatorState => CreatorState
  | credentials => Credentials
  | emit _ => Unit
  | send _ => Except HostError Unit
  | recordPong => Unit
  | change _ => Except IoError Unit
  | readText _ => Except IoError String
  | clock => UInt64
  | pause _ => Unit
  | log _ => Unit

/-- A tree of effects that ends with a result. -/
inductive Procedure (α : Type) where
  | done (result : α)
  | perform (effect : Effect) (next : effect.Answer → Procedure α)

namespace Procedure

variable {α β γ : Type}

/-- Goes on with the result of a procedure. -/
def andThen : Procedure α → (α → Procedure β) → Procedure β
  | done a, f => f a
  | perform e next, f => perform e fun x => (next x).andThen f

instance : Monad Procedure where
  pure := done
  bind := andThen

/-- A single effect. -/
def ofEffect (e : Effect) : Procedure e.Answer := perform e done

/-- Writes to the log. -/
def log (entry : LogEntry) : Procedure Unit := ofEffect (.log entry)

@[simp] theorem done_andThen (a : α) (f : α → Procedure β) : (done a).andThen f = f a := rfl

@[simp] theorem andThen_done (p : Procedure α) : p.andThen done = p := by
  induction p with
  | done a => rfl
  | perform e next ih => simp only [andThen, ih]

theorem andThen_assoc (p : Procedure α) (f : α → Procedure β) (g : β → Procedure γ) :
    (p.andThen f).andThen g = p.andThen fun a => (f a).andThen g := by
  induction p with
  | done a => rfl
  | perform e next ih => simp only [andThen, ih]

end Procedure

/-! ## Procedures that may fail -/

/-- A procedure that may fail. -/
abbrev Handling (α : Type) := ExceptT HostError Procedure α

namespace Handling

/-- An effect that cannot fail. -/
def ofEffect (e : Effect) : Handling e.Answer := ExceptT.lift (Procedure.ofEffect e)

/-- An effect that may fail with a host error. -/
def update (c : StateCommand) : Handling Unit := ExceptT.mk (Procedure.ofEffect (.update c))

/-- Sends a message to the session. -/
def send (m : IncomingMessage) : Handling Unit := ExceptT.mk (Procedure.ofEffect (.send m))

/-- Tells the editor about an event. -/
def emit (e : HostEvent) : Handling Unit := ofEffect (.emit e)

/-- Writes to the log. -/
def log (level : LogLevel) (message : String) : Handling Unit :=
  ofEffect (.log (.bridge level message))

/-- Carries out one step on files. -/
def step (s : FileStep HostError) : Handling Unit := do
  match ← (ofEffect (.change s.op) : Handling (Except IoError Unit)) with
  | .ok () => pure ()
  | .error e => throw (s.blame e)

/-- Carries out steps on files in order until one fails. -/
def steps (ss : List (FileStep HostError)) : Handling Unit := ss.forM step

/-- Goes on with what was decoded, or fails with what is wrong with it. -/
def ofExcept {α : Type} : Except HostError α → Handling α
  | .ok a => pure a
  | .error e => throw e

/-- Decodes the payload of a message. -/
def decoded {α : Type} (decode : Json.Value → Except Json.Cause α) (m : OutgoingMessage) :
    Handling α :=
  ofExcept ((decodePayload decode m.messageType m.payload).mapError .protocol)

end Handling

end WebviewBridge
