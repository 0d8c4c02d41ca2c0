import WebviewBridge.Proofs.Host.Demand

/-!
# What handlers may do

A procedure may do no more than the effects in its tree (`Procedure.All`).  What a frame asks for
decides which effects its handler may have (`Effect.IsDueTo`, `Creator.isDueTo_handleFrame`): only a
request for the tokens looks at them, and only what sets the creator's mode tells about it.  The
handlers of all messages but pongs only have ordinary effects: they never count a pong, and never
send a `ping` (`Creator.all_handleFrame`).  This holds along all paths, whatever the effects answer,
so it also holds of what is left of a handler that waits.
-/

namespace WebviewBridge

open Json

/-- The effects that the handler of a frame may have, by what the frame asks for. -/
inductive Effect.IsDueTo : Demand → Effect → Prop
  | recordPong : IsDueTo .pong .recordPong
  | credentials : IsDueTo .tokens .credentials
  | setTokens (t : AccountTokens) :
      IsDueTo (.update (.ok t)) (.update (Settings.updateCommand t))
  | pause (messages : List ChatMessage) (ms : Nat) : IsDueTo (.draft (.ok messages)) (.pause ms)
  | setMode {d : Demand} {x : CreatorState} (hx : d.mode? = some x) :
      IsDueTo d (.update (.setCreatorState x))
  | stateChanged {d : Demand} {x : CreatorState} (hx : d.mode? = some x) :
      IsDueTo d (.emit (.stateChanged x))
  | creatorState (idea : SubmitIdea) : IsDueTo (.idea (.ok idea)) .creatorState
  | clock (idea : SubmitIdea) : IsDueTo (.idea (.ok idea)) .clock
  | change (idea : SubmitIdea) (op : FileOp) : IsDueTo (.idea (.ok idea)) (.change op)
  | executePlan (idea : SubmitIdea) :
      IsDueTo (.idea (.ok idea)) (.emit (.executePlan (.ofSubmission idea)))
  | replaceWorkspaceFolder (idea : SubmitIdea) (path : String) :
      IsDueTo (.idea (.ok idea)) (.emit (.replaceWorkspaceFolder path))
  | send {d : Demand} {m : IncomingMessage} (hm : m.messageType ≠ Kind.ping.messageType) :
      IsDueTo d (.send m)
  | log {d : Demand} (entry : LogEntry) : IsDueTo d (.log entry)

/-- An effect that neither counts a pong nor sends a ping. -/
def Effect.IsOrdinary : Effect → Prop
  | recordPong => False
  | send m => m.messageType ≠ Kind.ping.messageType
  | _ => True

/-- Only a pong is counted. -/
lemma Effect.IsDueTo.isOrdinary {d : Demand} {e : Effect} (he : e.IsDueTo d) (hpong : d ≠ .pong) :
    e.IsOrdinary := by
  cases he with
  | recordPong => exact absurd rfl hpong
  | send hm => exact hm
  | _ => trivial

namespace Procedure

variable {α β : Type} {P : Effect → Prop}

/-- All effects that a procedure may have, whatever they answer. -/
def All (P : Effect → Prop) : Procedure α → Prop
  | done _ => True
  | perform e next => P e ∧ ∀ x, (next x).All P

lemma all_ofEffect {e : Effect} (he : P e) : (ofEffect e).All P := ⟨he, fun _ => trivial⟩

lemma all_bind {p : Procedure α} {f : α → Procedure β} (hp : p.All P) (hf : ∀ a, (f a).All P) :
    (p >>= f).All P := by
  induction p with
  | done a => exact hf a
  | perform e next ih => exact ⟨hp.1, fun x => ih x (hp.2 x)⟩

/-- What is true of all effects of some kind is true of the effects of a procedure. -/
lemma All.mono {Q : Effect → Prop} {p : Procedure α} (hp : p.All P) (h : ∀ e, P e → Q e) :
    p.All Q := by
  induction p with
  | done a => trivial
  | perform e next ih => exact ⟨h e hp.1, fun x => ih x (hp.2 x)⟩

end Procedure

namespace Handling

variable {α β : Type} {P : Effect → Prop}

/-- All effects that a handler may have, whatever they answer. -/
def All (P : Effect → Prop) (x : Handling α) : Prop := Procedure.All P (ExceptT.run x)

lemma all_bind {x : Handling α} {f : α → Handling β} (hx : x.All P) (hf : ∀ a, (f a).All P) :
    (x >>= f).All P := by
  refine Procedure.all_bind hx fun r => ?_
  cases r with
  | ok a => exact hf a
  | error e => trivial

lemma all_ofEffect {e : Effect} (he : P e) : (ofEffect e).All P :=
  Procedure.all_bind (Procedure.all_ofEffect he) fun _ => trivial

lemma all_update {c : StateCommand} (hc : P (.update c)) : (update c).All P :=
  Procedure.all_ofEffect hc

lemma all_send {m : IncomingMessage} (hm : P (.send m)) : (send m).All P :=
  Procedure.all_ofEffect hm

lemma all_emit {e : HostEvent} (he : P (.emit e)) : (emit e).All P := all_ofEffect he

lemma all_log {level : LogLevel} {message : String} (h : P (.log (.bridge level message))) :
    (log level message).All P :=
  all_ofEffect h

lemma all_step {s : FileStep HostError} (hs : P (.change s.op)) : (step s).All P := by
  refine all_bind (all_ofEffect hs) fun r => ?_
  cases r with
  | ok a => trivial
  | error e => trivial

lemma all_steps {ss : List (FileStep HostError)} (hss : ∀ s ∈ ss, P (.change s.op)) :
    (steps ss).All P := by
  induction ss with
  | nil => trivial
  | cons s ss ih =>
    refine all_bind (all_step (hss s (by simp))) fun _ => ih fun s' hs' => ?_
    exact hss s' (List.mem_cons_of_mem s hs')

end Handling

/-! ## Handlers -/

namespace Settings

lemma isDueTo_answerTokens (m : OutgoingMessage) :
    (answerTokens m).All (Effect.IsDueTo .tokens) := by
  refine Handling.all_bind (Handling.all_ofEffect .credentials) fun c =>
    Handling.all_send (.send ?_)
  change Kind.tokens.messageType ≠ Kind.ping.messageType
  decide

lemma isDueTo_updateTokens {m : OutgoingMessage} (hm : m.messageType ≠ Kind.ping.messageType)
    (t : AccountTokens) : (updateTokens m t).All (Effect.IsDueTo (.update (.ok t))) :=
  Handling.all_bind (Handling.all_update (.setTokens t)) fun _ => Handling.all_send (.send hm)

end Settings

namespace Creator

lemma isDueTo_changeState {d : Demand} {next : CreatorState} (hd : d.mode? = some next) :
    (changeState next).All (Effect.IsDueTo d) :=
  Handling.all_bind (Handling.all_update (.setMode hd)) fun _ =>
    Handling.all_emit (.stateChanged hd)

lemma isDueTo_streamPlan (m : OutgoingMessage) (messages : List ChatMessage) (plan : String)
    (script : List PlanItem) :
    (streamPlan m plan script).All (Effect.IsDueTo (.draft (.ok messages))) := by
  induction script generalizing plan with
  | nil =>
    refine Handling.all_bind (Handling.all_log (.log _)) fun _ => Handling.all_send (.send ?_)
    change Kind.planCompleted.messageType ≠ Kind.ping.messageType
    decide
  | cons item rest ih =>
    cases item with
    | chunk text =>
      refine Handling.all_bind (Handling.all_send (.send ?_)) fun _ => ih (plan ++ text)
      change Kind.planStream.messageType ≠ Kind.ping.messageType
      decide
    | failure e =>
      refine Handling.all_bind (Handling.all_log (.log _)) fun _ => Handling.all_send (.send ?_)
      change Kind.errorNotice.messageType ≠ Kind.ping.messageType
      decide
    | pause ms =>
      exact Handling.all_bind (Handling.all_ofEffect (.pause messages ms)) fun _ => ih plan

/-- A project is started with nothing but files, and the editor is told about its folder. -/
lemma all_startProject (c : Creator) (idea : SubmitIdea) (path : String) {P : Effect → Prop}
    (hmode : P .creatorState) (hclock : P .clock) (hchange : ∀ op, P (.change op))
    (hlog : ∀ entry, P (.log entry))
    (hemit : ∀ folder, P (.emit (.replaceWorkspaceFolder folder))) :
    (c.startProject idea path).All P := by
  refine Handling.all_bind (Handling.all_ofEffect hmode) fun mode => ?_
  refine Handling.all_bind ?_ fun _ => ?_
  · refine Handling.all_bind (Handling.all_ofEffect hclock) fun now => ?_
    exact Handling.all_steps fun s _ => hchange s.op
  · refine Handling.all_bind (Handling.all_step (hchange _)) fun _ => ?_
    exact Handling.all_bind (Handling.all_log (hlog _)) fun _ => Handling.all_emit (hemit _)

lemma isDueTo_submit (c : Creator) (idea : SubmitIdea) :
    (c.submit idea).All (Effect.IsDueTo (.idea (.ok idea))) := by
  refine Handling.all_bind (isDueTo_changeState rfl) fun _ => ?_
  split
  · exact Handling.all_emit (.executePlan idea)
  · exact c.all_startProject idea _ (.creatorState idea) (.clock idea) (.change idea) .log
      (.replaceWorkspaceFolder idea)

/-- The handler of a demand only has effects that are due to it. -/
lemma isDueTo_meet (c : Creator) (m : OutgoingMessage) {d : Demand} (hm : m.Asks d) :
    (c.meet m d).All (Effect.IsDueTo d) := by
  cases d with
  | unreadable | pong => trivial
  | tokens => exact Settings.isDueTo_answerTokens m
  | update content =>
    have htype : m.messageType ≠ Kind.ping.messageType := by
      rw [hm.2.1]
      decide
    cases content with
    | error e => trivial
    | ok t => exact Settings.isDueTo_updateTokens htype t
  | draft content =>
    cases content with
    | error e => trivial
    | ok messages => exact isDueTo_streamPlan m messages "" (c.planner messages)
  | idea content =>
    cases content with
    | error e => trivial
    | ok idea => exact c.isDueTo_submit idea
  | close => exact isDueTo_changeState rfl
  | unknown => exact Handling.all_log (.log _)

lemma isDueTo_report {d : Demand} {m : IncomingMessage}
    (hm : m.messageType ≠ Kind.ping.messageType) (failure : String) :
    (report m failure).All (Effect.IsDueTo d) := by
  refine Procedure.all_bind (Handling.all_send (.send hm)) fun r => ?_
  cases r with
  | ok a => trivial
  | error e => exact Procedure.all_ofEffect (.log _)

lemma isDueTo_handleMessage (c : Creator) (m : OutgoingMessage) :
    (c.handleMessage m).All (Effect.IsDueTo m.demand) := by
  rw [handleMessage]
  split
  · next hpong =>
    rw [OutgoingMessage.demand_of_pong hpong]
    exact Procedure.all_bind (Procedure.all_ofEffect .recordPong) fun _ => trivial
  · next hpong =>
    rw [route_eq c hpong]
    refine Procedure.all_bind (c.isDueTo_meet m m.asks_demand) fun r => ?_
    cases r with
    | ok a => trivial
    | error e =>
      refine isDueTo_report ?_ _
      change Kind.errorNotice.messageType ≠ Kind.ping.messageType
      decide

/-- **The text of a frame is handled with effects only that are due to what it asks for.** -/
theorem isDueTo_handleFrame (c : Creator) (text : String) :
    (c.handleFrame text).All (Effect.IsDueTo (.ofText text)) := by
  cases hm : OutgoingMessage.parse text with
  | error r =>
    rw [handleFrame, hm]
    refine isDueTo_report ?_ _
    change Kind.errorNotice.messageType ≠ Kind.ping.messageType
    decide
  | ok m =>
    rw [handleFrame, hm, Demand.ofText_of_ok hm]
    exact c.isDueTo_handleMessage m

/-- The text of a frame that is no pong is handled with ordinary effects only. -/
lemma all_handleFrame (c : Creator) {text : String} (hpong : Demand.ofText text ≠ .pong) :
    (c.handleFrame text).All Effect.IsOrdinary :=
  (c.isDueTo_handleFrame text).mono fun _ he => he.isOrdinary hpong

/-- The text of a pong is counted, and that is all. -/
lemma handleFrame_of_pong (c : Creator) {text : String} (hpong : Demand.ofText text = .pong) :
    c.handleFrame text = .perform .recordPong fun _ => .done () := by
  cases hm : OutgoingMessage.parse text with
  | error r =>
    rw [Demand.ofText_of_error hm] at hpong
    cases hpong
  | ok m =>
    rw [Demand.ofText_of_ok hm] at hpong
    have htype : m.messageType = Kind.pong.messageType := by
      have hasks := m.asks_demand
      rw [hpong] at hasks
      exact hasks
    simp only [handleFrame, hm, handleMessage, if_pos htype]
    rfl

end Creator

end WebviewBridge
