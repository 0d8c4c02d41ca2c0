import WebviewBridge.Host.Basic

/-!
# Handlers side by side

The handlers of different connections work on one host side by side.  The effects of one handler
happen in their order; between two of them anything may happen elsewhere.  Having a command
applied is itself not done at once: the handler calls the keeper, queues the command, and goes on
when the keeper, which takes the commands one at a time, has applied it.  All else is done at
once.

A crew is a host with the handlers at work on it.  A schedule says who makes the next move, and
the history of a crew tells what was done, oldest first.  Main statement: a handler that works
alone does what `Procedure.run` says (`Crew.run_alone`).
-/

namespace WebviewBridge

/-- How far a handler is with the command that it has to have applied. -/
inductive Errand where
  /-- It has not begun. -/
  | ahead
  /-- It has called the keeper. -/
  | called
  /-- The command is queued, or was applied. -/
  | queued (ticket : Ticket)
deriving DecidableEq, Repr, Inhabited

/-- A handler at work. -/
structure Worker (α : Type) where
  session : Session := default
  /-- What is left to do. -/
  rest : Procedure α
  errand : Errand := .ahead

/-- Something that was done.  Workers are known by their places in the crew. -/
inductive Deed where
  /-- A keeper was started. -/
  | started
  | queued (worker : Nat) (ticket : Ticket) (command : StateCommand)
  | applied (ticket : Ticket) (command : StateCommand)
  /-- An effect of a worker came to its end. -/
  | performed (worker : Nat) (effect : Effect) (answer : effect.Answer)

/-- A host and the handlers at work on it. -/
structure Crew (α : Type) where
  host : Host
  workers : List (Worker α)
  history : List Deed := []

/-- Who does something next. -/
inductive Move where
  /-- The worker of that place. -/
  | work (worker : Nat)
  /-- The keeper of the state. -/
  | keep
deriving DecidableEq, Repr

/-- The number of commands that wait at most; who comes with another one has to wait too. -/
def Host.queueLimit : Nat := 100

namespace Worker

variable {α : Type}

/-- The result, once there is nothing left to do. -/
def result? (w : Worker α) : Option α :=
  match w.rest with
  | .done a => some a
  | .perform _ _ => none

/-- Goes on with the outcome of a command. -/
def proceed (w : Worker α) (place : Nat) (c : StateCommand)
    (next : Except HostError Unit → Procedure α) (outcome : Except HostError Unit) :
    Worker α × List Deed :=
  ({ w with rest := next outcome, errand := .ahead }, [.performed place (.update c) outcome])

/-- Takes the next step towards having a command applied. -/
def pursue (w : Worker α) (place : Nat) (c : StateCommand)
    (next : Except HostError Unit → Procedure α) (h : Host) : Host × Worker α × List Deed :=
  match w.errand with
  | .ahead =>
    (h.callKeeper, { w with errand := .called },
      if h.keeper = .notStarted then [.started] else [])
  | .called =>
    if Host.queueLimit ≤ h.queue.length then (h, w, [])
    else
      match h.enqueue c with
      | (h, .ok t) => (h, { w with errand := .queued t }, [.queued place t c])
      | (h, .error e) => (h, w.proceed place c next (.error e))
  | .queued t =>
    match h.outcome? t with
    | some outcome => (h, w.proceed place c next outcome)
    | none => (h, w, [])

/-- Makes the next move of a worker, if it can make one. -/
def move (w : Worker α) (place : Nat) (h : Host) : Host × Worker α × List Deed :=
  match w.rest with
  | .done _ => (h, w, [])
  | .perform (.update c) next => w.pursue place c next h
  | .perform e next =>
    let (h, session, x) := h.perform w.session e
    (h, { w with session, rest := next x }, [.performed place e x])

end Worker

namespace Crew

variable {α : Type}

/-- What is done when the keeper makes a move. -/
def keeping (h : Host) : List Deed :=
  match h.queue with
  | [] => []
  | c :: _ => [.applied ⟨h.applied⟩ c]

/-- Makes a move. -/
def move (c : Crew α) : Move → Crew α
  | .work i =>
    match c.workers[i]? with
    | none => c
    | some w =>
      let (host, w, deeds) := w.move i c.host
      { host, workers := c.workers.set i w, history := c.history ++ deeds }
  | .keep => { c with host := c.host.applyNext, history := c.history ++ keeping c.host }

/-- Makes the moves of a schedule in order. -/
def run (c : Crew α) (schedule : List Move) : Crew α := schedule.foldl move c

/-- Whether no handler is at work any more. -/
def isIdle (c : Crew α) : Bool := c.workers.all fun w => w.result?.isSome

/-- A crew that begins to work on procedures, one for each session. -/
def ofProcedures (h : Host) (ps : List (Session × Procedure α)) : Crew α :=
  { host := h, workers := ps.map fun p => { session := p.1, rest := p.2 } }

@[simp] theorem run_nil (c : Crew α) : c.run [] = c := rfl

@[simp] theorem run_cons (c : Crew α) (m : Move) (ms : List Move) :
    c.run (m :: ms) = (c.move m).run ms := rfl

theorem run_append (c : Crew α) (ms ns : List Move) :
    c.run (ms ++ ns) = (c.run ms).run ns := List.foldl_append

/-! ## A handler that works alone -/

/-- A crew of one handler. -/
def alone (h : Host) (s : Session) (p : Procedure α) (history : List Deed) : Crew α :=
  { host := h, workers := [{ session := s, rest := p }], history }

/-- With no commands waiting, an effect of a handler that works alone comes to the end that
`Host.perform` says. -/
theorem run_alone_effect (h : Host) (s : Session) (e : Effect) (next : e.Answer → Procedure α)
    (history : List Deed) (hq : h.queue = []) :
    ∃ schedule later,
      (alone h s (.perform e next) history).run schedule
        = alone (h.perform s e).1 (h.perform s e).2.1 (next (h.perform s e).2.2) later := by
  cases e with
  | update c =>
    cases hk : h.keeper with
    | stopped =>
      refine ⟨[.work 0, .work 0], history ++ [.performed 0 (.update c) (h.update c).2], ?_⟩
      simp [alone, move, Worker.move, Worker.pursue, Worker.proceed, Host.queueLimit,
        Host.callKeeper, Host.enqueue, Host.perform, Host.update, hk, hq]
    | notStarted | running =>
      let schedule : List Move := [.work 0, .work 0, .keep, .work 0]
      refine ⟨schedule, ((alone h s (.perform (.update c) next) history).run schedule).history, ?_⟩
      simp [schedule, alone, move, Worker.move, Worker.pursue, Worker.proceed, Host.queueLimit,
        Host.callKeeper, Host.enqueue, Host.applyNext, Host.applyQueue, Host.outcome?, Host.note,
        Host.perform, Host.update, hk, hq]
  | _ => exact ⟨[.work 0], _, rfl⟩

/-- An effect that is done at once leaves no command waiting. -/
theorem queue_perform (h : Host) (s : Session) (e : Effect) (hq : h.queue = []) :
    (h.perform s e).1.queue = [] := by
  cases e with
  | update c =>
    cases hk : h.keeper <;>
      simp [Host.perform, Host.update, Host.callKeeper, Host.enqueue, Host.applyQueue,
        Host.applyNext, Host.note, hk, hq]
  | emit x => simp only [Host.perform, Host.emit]; split <;> exact hq
  | _ => exact hq

/-- With no commands waiting, a handler that works alone comes to the end that `Procedure.run`
says. -/
theorem run_alone (p : Procedure α) (h : Host) (s : Session) (history : List Deed)
    (hq : h.queue = []) :
    ∃ schedule later,
      (alone h s p history).run schedule
        = alone (p.run h s).1 (p.run h s).2.1 (.done (p.run h s).2.2) later := by
  induction p generalizing h s history with
  | done a => exact ⟨[], history, rfl⟩
  | perform e next ih =>
    obtain ⟨ms, later, hm⟩ := run_alone_effect h s e next history hq
    obtain ⟨ns, last, hn⟩ :=
      ih (h.perform s e).2.2 (h.perform s e).1 (h.perform s e).2.1 later (queue_perform h s e hq)
    exact ⟨ms ++ ns, last, by rw [run_append, hm, hn]; rfl⟩

end Crew

end WebviewBridge
