import Mathlib.Data.List.Forall2
import WebviewBridge.Proofs.Host.Effects
import WebviewBridge.Proofs.Host.Tokens

/-!
# The account's tokens stay where they are

Two hosts that differ in nothing but the stored credentials are run side by side.  Every effect but
a look at the credentials does the same to both (`Host.Alike.perform`), and such looks are only due
to requests for the tokens.  So the runs differ in nothing but what is told to those who ask
(`Floor.run_isDiscreet`), and an update makes the two hosts equal but for their logs.
-/

namespace WebviewBridge

open Json

/-! ## Two hosts -/

/-- Two hosts that agree in everything but their logs and their credentials, which are related. -/
def Host.Alike (R : Credentials → Credentials → Prop) (h g : Host) : Prop :=
  ∃ credentials log, R h.state.credentials credentials ∧
    g = { h with state := { h.state with credentials }, log }

/-- Two sessions that agree in everything but the frames added to what was queued in them, which
are related one by one. -/
structure Session.Alike (Q : String → String → Prop) (q q' : List String) (s t : Session) :
    Prop where
  id : t.id = s.id
  isOpen : t.isOpen = s.isOpen
  pongs : t.pongs = s.pongs
  queue : ∃ added added', s.queue = q ++ added ∧ t.queue = q' ++ added' ∧
    List.Forall₂ Q added added'

/-- Frames may differ where they tell of credentials that differ. -/
structure DiffersBy (R : Credentials → Credentials → Prop) (Q : String → String → Prop) :
    Prop where
  credentials : ∀ a, R a a
  frame : ∀ x, Q x x
  reply : ∀ (m : OutgoingMessage) (a b : Credentials), R a b →
    Q (m.answer (.tokens a.toWire)).wire (m.answer (.tokens b.toWire)).wire

namespace Host.Alike

variable {R : Credentials → Credentials → Prop} {h g : Host}

/-- The same command makes the credentials equal or leaves them as they are. -/
lemma applyNext (hR : ∀ a, R a a) (hg : h.Alike R g) : h.applyNext.Alike R g.applyNext := by
  obtain ⟨credentials, log, hk, rfl⟩ := hg
  cases hq : h.queue with
  | nil =>
    have hnext : h.applyNext = h := by rw [Host.applyNext, hq]
    rw [hnext, Host.applyNext]
    simp only
    exact ⟨credentials, log, hk, by rw [hq]⟩
  | cons x rest =>
    rw [Host.applyNext, Host.applyNext]
    simp only [hq]
    cases x with
    | setCreatorState x => exact ⟨credentials, _, hk, rfl⟩
    | setCredentials k => exact ⟨k, _, hR k, rfl⟩
    | clearCredentials => exact ⟨.empty, _, hR _, rfl⟩

lemma applyQueue (hR : ∀ a, R a a) (hg : h.Alike R g) : h.applyQueue.Alike R g.applyQueue := by
  have hfold (q : List StateCommand) {h g : Host} (hg : h.Alike R g) :
      (q.foldl (fun h _ => h.applyNext) h).Alike R (q.foldl (fun h _ => h.applyNext) g) := by
    induction q generalizing h g with
    | nil => exact hg
    | cons _ q ih => exact ih (hg.applyNext hR)
  have hqueue : g.queue = h.queue := by
    obtain ⟨_, _, -, rfl⟩ := hg
    rfl
  rw [Host.applyQueue, Host.applyQueue, hqueue]
  exact hfold h.queue hg

lemma callKeeper (hg : h.Alike R g) : h.callKeeper.Alike R g.callKeeper := by
  obtain ⟨credentials, log, hk, rfl⟩ := hg
  rw [Host.callKeeper, Host.callKeeper]
  cases hkeeper : h.keeper with
  | notStarted => exact ⟨credentials, _, hk, rfl⟩
  | running | stopped => exact ⟨credentials, log, hk, by rw [hkeeper]⟩

lemma enqueue (hg : h.Alike R g) (x : StateCommand) :
    (h.enqueue x).1.Alike R (g.enqueue x).1 ∧ (g.enqueue x).2 = (h.enqueue x).2 := by
  obtain ⟨credentials, log, hk, rfl⟩ := hg
  rw [Host.enqueue, Host.enqueue]
  split
  · exact ⟨⟨credentials, log, hk, rfl⟩, rfl⟩
  · exact ⟨⟨credentials, log, hk, rfl⟩, rfl⟩

lemma update (hR : ∀ a, R a a) (hg : h.Alike R g) (x : StateCommand) :
    (h.update x).1.Alike R (g.update x).1 ∧ (g.update x).2 = (h.update x).2 := by
  obtain ⟨hqueued, houtcome⟩ := hg.callKeeper.enqueue x
  rw [Host.update, Host.update]
  rcases hx : h.callKeeper.enqueue x with ⟨h', e | ticket⟩ <;>
    rcases hx' : g.callKeeper.enqueue x with ⟨g', e' | ticket'⟩ <;>
    rw [hx, hx'] at hqueued houtcome <;> cases houtcome
  · exact ⟨hqueued, rfl⟩
  · exact ⟨hqueued.applyQueue hR, rfl⟩

lemma emit (hg : h.Alike R g) (x : HostEvent) : (h.emit x).Alike R (g.emit x) := by
  obtain ⟨credentials, log, hk, rfl⟩ := hg
  rw [Host.emit_eq, Host.emit_eq]
  exact ⟨credentials, log, hk, rfl⟩

/-- Two hosts with the same credentials agree in everything but their logs. -/
lemma eq_of_credentials (hg : h.Alike R g) (heq : h.state.credentials = g.state.credentials) :
    h.Alike Eq g := by
  obtain ⟨credentials, log, -, rfl⟩ := hg
  exact ⟨credentials, log, heq, rfl⟩

end Host.Alike

/-! ## Two runs -/

section Runs

variable {R : Credentials → Credentials → Prop} {Q : String → String → Prop}
  {q q' : List String} {h g : Host} {s t : Session}

lemma Session.Alike.send (ht : s.Alike Q q q' t) {m m' : IncomingMessage} (hm : Q m.wire m'.wire) :
    (s.send m).1.Alike Q q q' (t.send m').1 ∧ (t.send m').2 = (s.send m).2 := by
  rw [Session.send, Session.send, ht.isOpen]
  split
  · obtain ⟨added, added', hq, hq', hadded⟩ := ht.queue
    refine ⟨⟨ht.id, rfl, ht.pongs, added ++ [m.wire], added' ++ [m'.wire], ?_, ?_, ?_⟩, rfl⟩
    · rw [hq, List.append_assoc]
    · rw [hq', List.append_assoc]
    · exact List.rel_append hadded (.cons hm .nil)
  · exact ⟨ht, by rw [ht.id]⟩

/-- **An effect that does not look at the credentials does the same to both hosts and to both
sessions, and answers the same.** -/
theorem Host.Alike.perform {e : Effect} (hdiffers : DiffersBy R Q) (hg : h.Alike R g)
    (ht : s.Alike Q q q' t) (he : e ≠ .credentials) :
    (h.perform s e).1.Alike R (g.perform t e).1 ∧
      (h.perform s e).2.1.Alike Q q q' (g.perform t e).2.1 ∧
      (g.perform t e).2.2 = (h.perform s e).2.2 := by
  cases e with
  | update x =>
    obtain ⟨hupdate, hanswer⟩ := hg.update hdiffers.credentials x
    exact ⟨hupdate, ht, hanswer⟩
  | credentials => exact absurd rfl he
  | emit x => exact ⟨hg.emit x, ht, rfl⟩
  | send m => exact ⟨hg, ht.send (hdiffers.frame _)⟩
  | recordPong => exact ⟨hg, ⟨ht.id, ht.isOpen, congrArg (· + 1) ht.pongs, ht.queue⟩, rfl⟩
  | _ =>
    obtain ⟨credentials, log, hk, rfl⟩ := hg
    exact ⟨⟨credentials, _, hk, rfl⟩, ht, rfl⟩

/-- So does a procedure that has no other effects. -/
lemma Procedure.All.run_alike {α : Type} {p : Procedure α} (hdiffers : DiffersBy R Q)
    (hp : p.All (· ≠ .credentials)) (hg : h.Alike R g) (ht : s.Alike Q q q' t) :
    (p.run h s).1.Alike R (p.run g t).1 ∧ (p.run h s).2.1.Alike Q q q' (p.run g t).2.1 := by
  induction p generalizing h g s t with
  | done a => exact ⟨hg, ht⟩
  | perform e next ih =>
    obtain ⟨hg', ht', hanswer⟩ := hg.perform hdiffers ht hp.1
    rw [run_perform, run_perform, hanswer]
    exact ih _ (hp.2 _) hg' ht'

end Runs

/-! ## Frames -/

lemma Effect.IsDueTo.ne_credentials {d : Demand} {e : Effect} (he : e.IsDueTo d)
    (hd : d ≠ .tokens) : e ≠ .credentials := by
  cases he with
  | credentials => exact absurd rfl hd
  | _ => exact nofun

namespace Creator

section Frames

variable {c : Creator} {R : Credentials → Credentials → Prop} {Q : String → String → Prop}
  {q q' : List String} {h g : Host} {s t : Session}

/-- A request for the tokens is answered with them.  If the answer cannot be sent, a report of that
cannot be sent either. -/
lemma run_handleFrame_of_tokens {text : String} {m : OutgoingMessage}
    (hm : OutgoingMessage.parse text = .ok m) (hd : m.demand = .tokens) (h : Host) (s : Session) :
    (c.handleFrame text).run h s =
      match s.send (m.answer (.tokens h.state.credentials.toWire)) with
      | (s, .ok ()) => (h, s, ())
      | (s, .error e) =>
        (report (failureNotice m e) "Failed to report handler error: ").run h s := by
  have hpong : m.messageType ≠ Kind.pong.messageType := by
    intro hpong
    rw [OutgoingMessage.demand_of_pong hpong] at hd
    cases hd
  have hmeet := runOn_answerTokens (h := h) (s := s) m
  rw [run_handleFrame_of_ok hm]
  rcases hsend : s.send (m.answer (.tokens h.state.credentials.toWire)) with ⟨s', e | ⟨⟩⟩
  · rw [hsend] at hmeet
    exact run_handleMessage_of_error hpong (by rw [hd]; exact hmeet)
  · rw [hsend] at hmeet
    exact run_handleMessage_of_ok hpong (by rw [hd]; exact hmeet)

/-- **A frame does the same on both sides, and adds the same frames but for the tokens that it asks
for.** -/
theorem run_handleFrame_alike (hdiffers : DiffersBy R Q) (text : String) (hg : h.Alike R g)
    (ht : s.Alike Q q q' t) :
    ((c.handleFrame text).run h s).1.Alike R ((c.handleFrame text).run g t).1 ∧
      ((c.handleFrame text).run h s).2.1.Alike Q q q' ((c.handleFrame text).run g t).2.1 := by
  by_cases hd : Demand.ofText text = .tokens
  · cases hm : OutgoingMessage.parse text with
    | error refusal =>
      rw [Demand.ofText_of_error hm] at hd
      cases hd
    | ok m =>
      rw [Demand.ofText_of_ok hm] at hd
      have hreply : Q (m.answer (.tokens h.state.credentials.toWire)).wire
          (m.answer (.tokens g.state.credentials.toWire)).wire := by
        obtain ⟨credentials, _, hk, rfl⟩ := hg
        exact hdiffers.reply m _ _ hk
      obtain ⟨ht', houtcome⟩ := ht.send hreply
      rw [run_handleFrame_of_tokens hm hd, run_handleFrame_of_tokens hm hd]
      rcases hs : s.send (m.answer (.tokens h.state.credentials.toWire)) with ⟨s', e | ⟨⟩⟩ <;>
        rcases ht : t.send (m.answer (.tokens g.state.credentials.toWire)) with ⟨t', e' | ⟨⟩⟩ <;>
        rw [hs, ht] at ht' houtcome <;> cases houtcome
      · have hreport : (report (failureNotice m e) "Failed to report handler error: ").All
            (· ≠ .credentials) := by
          have hnotice : (failureNotice m e).messageType ≠ Kind.ping.messageType := by
            change Kind.errorNotice.messageType ≠ Kind.ping.messageType
            decide
          exact (isDueTo_report (d := .close) hnotice _).mono fun _ he => he.ne_credentials nofun
        exact hreport.run_alike hdiffers hg ht'
      · exact ⟨hg, ht'⟩
  · have hall : (c.handleFrame text).All (· ≠ .credentials) :=
      (c.isDueTo_handleFrame text).mono fun _ he => he.ne_credentials hd
    exact hall.run_alike hdiffers hg ht

/-- Whoever stores tokens has them stored, whether or not that can be acknowledged. -/
lemma credentials_of_updates (hk : h.keeper ≠ .stopped) {text : String} {m : OutgoingMessage}
    {tokens : AccountTokens} (hm : OutgoingMessage.parse text = .ok m) (ht : m.Updates tokens)
    (s : Session) :
    ((c.handleFrame text).run h s).1.state.credentials = .ofWire tokens := by
  have hd : m.demand = .update (.ok tokens) := by
    rw [OutgoingMessage.demand_of_updateCredentials ht.destination ht.messageType,
      OutgoingMessage.content_eq_ok_iff.2 ht.decodes]
  have hpong : m.messageType ≠ Kind.pong.messageType := by
    rw [ht.messageType]
    decide
  obtain ⟨applied, log, hupdate⟩ := runOn_updateTokens_of_alive (s := s) hk m tokens
  rw [run_handleFrame_of_ok hm]
  rcases hsend : s.send m.acknowledgement with ⟨s', e | ⟨⟩⟩
  · rw [hsend] at hupdate
    rw [run_handleMessage_of_error hpong (by rw [hd]; exact hupdate)]
    obtain ⟨log', hreport⟩ := run_report (s := s') (failureNotice m e)
      "Failed to report handler error: "
    rw [hreport]
  · rw [hsend] at hupdate
    rw [run_handleMessage_of_ok hpong (by rw [hd]; exact hupdate)]

end Frames

end Creator

/-! ## Runs -/

/-- A host with other credentials. -/
def Host.withCredentials (h : Host) (credentials : Credentials) : Host :=
  { h with state := { h.state with credentials } }

/-- Two frames are the same, or they are replies to the same request for the tokens. -/
def SameButTokens (x y : String) : Prop :=
  x = y ∨ ∃ (request : OutgoingMessage) (a b : AccountTokens),
    x = (request.answer (.tokens a)).wire ∧ y = (request.answer (.tokens b)).wire

/-- Replies with any tokens are the same but for them. -/
lemma differsBy_sameButTokens : DiffersBy (fun _ _ => True) SameButTokens :=
  ⟨fun _ => trivial, fun _ => Or.inl rfl, fun m _ _ _ => Or.inr ⟨m, _, _, rfl, rfl⟩⟩

/-- Replies with the same tokens are the same. -/
lemma differsBy_eq : DiffersBy Eq Eq := ⟨fun _ => rfl, fun _ => rfl, fun _ _ _ h => by rw [h]⟩

namespace Floor

variable {ι : Type} {R : Credentials → Credentials → Prop} {Q : String → String → Prop}
  {q q' : ι → List String} {c : Creator} {f g : Floor ι}

/-- A floor whose host has other credentials. -/
def withCredentials (f : Floor ι) (credentials : Credentials) : Floor ι :=
  { f with host := f.host.withCredentials credentials }

/-- Two floors with hosts and sessions that are alike. -/
structure Alike (R : Credentials → Credentials → Prop) (Q : String → String → Prop)
    (q q' : ι → List String) (f g : Floor ι) : Prop where
  host : f.host.Alike R g.host
  session (i : ι) : (f.sessions i).Alike Q (q i) (q' i) (g.sessions i)

/-- Two floors that are alike are alike with all frames of the past taken for granted, and then it
only matters which credentials there are. -/
lemma Alike.anew {R' : Credentials → Credentials → Prop} (Q' : String → String → Prop)
    (hg : f.Alike R Q q q' g) (hhost : f.host.Alike R' g.host) :
    f.Alike R' Q' (fun i => (f.sessions i).queue) (fun i => (g.sessions i).queue) g := by
  refine ⟨hhost, fun i => ?_⟩
  obtain ⟨hid, hopen, hpongs, -⟩ := hg.session i
  exact ⟨hid, hopen, hpongs, [], [], by rw [List.append_nil], by rw [List.append_nil], .nil⟩

/-- A floor is like itself with other credentials. -/
lemma alike_withCredentials (f : Floor ι) (credentials : Credentials) :
    f.Alike (fun _ _ => True) SameButTokens (fun i => (f.sessions i).queue)
      (fun i => (f.sessions i).queue) (f.withCredentials credentials) := by
  refine ⟨⟨credentials, f.host.log, trivial, rfl⟩, fun i => ⟨rfl, rfl, rfl, [], [], ?_, ?_, .nil⟩⟩
  · rw [List.append_nil]
  · exact (List.append_nil _).symm

variable [DecidableEq ι]

/-- Whatever happens keeps two floors alike. -/
lemma Alike.turn (hdiffers : DiffersBy R Q) (hg : f.Alike R Q q q' g) (t : Turn ι) :
    (f.turn c t).Alike R Q q q' (g.turn c t) := by
  cases t with
  | frame i text =>
    obtain ⟨hhost, hsession⟩ := Creator.run_handleFrame_alike (c := c) hdiffers text hg.host
      (hg.session i)
    refine ⟨hhost, fun j => ?_⟩
    by_cases hj : j = i
    · subst hj
      rw [turn_frame_session, turn_frame_session]
      exact hsession
    · change (Function.update f.sessions i _ j).Alike Q (q j) (q' j)
        (Function.update g.sessions i _ j)
      rw [Function.update_of_ne hj, Function.update_of_ne hj]
      exact hg.session j
  | meanwhile files now =>
    obtain ⟨credentials, log, hk, hhost⟩ := hg.host
    refine ⟨⟨credentials, log, hk, ?_⟩, hg.session⟩
    change { g.host with files, now } = _
    rw [hhost]
    rfl
  | hangUp i =>
    refine ⟨hg.host, fun j => ?_⟩
    by_cases hj : j = i
    · subst hj
      change (Function.update f.sessions j _ j).Alike Q (q j) (q' j)
        (Function.update g.sessions j _ j)
      rw [Function.update_self, Function.update_self]
      obtain ⟨hid, -, hpongs, hqueue⟩ := hg.session j
      exact ⟨hid, rfl, hpongs, hqueue⟩
    · change (Function.update f.sessions i _ j).Alike Q (q j) (q' j)
        (Function.update g.sessions i _ j)
      rw [Function.update_of_ne hj, Function.update_of_ne hj]
      exact hg.session j

/-- **Whole runs keep two floors alike.** -/
theorem Alike.run (hdiffers : DiffersBy R Q) (hg : f.Alike R Q q q' g) (turns : List (Turn ι)) :
    (f.run c turns).Alike R Q q q' (g.run c turns) := by
  induction turns generalizing f g with
  | nil => exact hg
  | cons t turns ih => exact ih (hg.turn hdiffers t)

/-- An update that is stored makes two floors the same but for their logs. -/
lemma Alike.of_updates (hdiffers : DiffersBy R Q) (hg : f.Alike R Q q q' g)
    (hk : f.host.keeper ≠ .stopped) (i : ι) {text : String} {m : OutgoingMessage}
    {tokens : AccountTokens} (hm : OutgoingMessage.parse text = .ok m) (ht : m.Updates tokens) :
    (f.turn c (.frame i text)).host.Alike Eq (g.turn c (.frame i text)).host := by
  have hk' : g.host.keeper ≠ .stopped := by
    obtain ⟨_, _, -, hhost⟩ := hg.host
    rw [hhost]
    exact hk
  refine (hg.turn (c := c) hdiffers (.frame i text)).host.eq_of_credentials ?_
  exact (Creator.credentials_of_updates (c := c) hk hm ht (f.sessions i)).trans
    (Creator.credentials_of_updates (c := c) hk' hm ht (g.sessions i)).symm

/-- What comes of the same turns if the host had other credentials at first. -/
structure IsDiscreet (c : Creator) (f : Floor ι) (credentials : Credentials)
    (turns : List (Turn ι)) : Prop where
  /-- The same frames are added to each session, but for the tokens in replies that ask for them. -/
  frames (i : ι) : ∃ added added',
    ((f.run c turns).sessions i).queue = (f.sessions i).queue ++ added ∧
    (((f.withCredentials credentials).run c turns).sessions i).queue =
      (f.sessions i).queue ++ added' ∧
    List.Forall₂ SameButTokens added added'
  pongs (i : ι) : (((f.withCredentials credentials).run c turns).sessions i).pongs =
    ((f.run c turns).sessions i).pongs
  isOpen (i : ι) : (((f.withCredentials credentials).run c turns).sessions i).isOpen =
    ((f.run c turns).sessions i).isOpen
  creator : ((f.withCredentials credentials).run c turns).host.state.creator =
    (f.run c turns).host.state.creator
  events : ((f.withCredentials credentials).run c turns).host.events =
    (f.run c turns).host.events
  files : ((f.withCredentials credentials).run c turns).host.files = (f.run c turns).host.files
  /-- Once an update was stored, the hosts are the same, and so is every frame that is added. -/
  afterUpdate (before : List (Turn ι)) (i : ι) (text : String) (after : List (Turn ι))
    (hturns : turns = before ++ .frame i text :: after)
    (hk : (f.run c before).host.keeper ≠ .stopped) (m : OutgoingMessage) (t : AccountTokens)
    (hm : OutgoingMessage.parse text = .ok m) (ht : m.Updates t) :
    (∃ log, ((f.withCredentials credentials).run c turns).host =
      { (f.run c turns).host with log }) ∧
    ∀ j, ∃ added,
      ((f.run c turns).sessions j).queue =
        ((f.run c (before ++ [.frame i text])).sessions j).queue ++ added ∧
      (((f.withCredentials credentials).run c turns).sessions j).queue =
        (((f.withCredentials credentials).run c (before ++ [.frame i text])).sessions j).queue ++
          added

/-- **Whatever tokens a host keeps, only those who ask for them can tell, and only until the next
update.** -/
theorem run_isDiscreet (c : Creator) (f : Floor ι) (credentials : Credentials)
    (turns : List (Turn ι)) : f.IsDiscreet c credentials turns := by
  have hstart := f.alike_withCredentials credentials
  have hend := hstart.run (c := c) differsBy_sameButTokens turns
  obtain ⟨stored, log, -, hhost⟩ := hend.host
  refine ⟨fun i => (hend.session i).queue, fun i => (hend.session i).pongs,
    fun i => (hend.session i).isOpen, by rw [hhost], by rw [hhost], by rw [hhost], ?_⟩
  intro before i text after hturns hk m t hm ht
  -- from the update on, the two floors are compared by equality
  have hbefore := hstart.run (c := c) differsBy_sameButTokens before
  have hupdated := (hbefore.turn (c := c) differsBy_sameButTokens (.frame i text)).anew Eq
    (hbefore.of_updates differsBy_sameButTokens hk i hm ht)
  have hafter := hupdated.run (c := c) differsBy_eq after
  have hrun (f : Floor ι) : f.run c turns = ((f.run c before).turn c (.frame i text)).run c after :=
    by rw [hturns, run_append]; rfl
  have hrun' (f : Floor ι) :
      f.run c (before ++ [.frame i text]) = (f.run c before).turn c (.frame i text) := by
    rw [run_append]; rfl
  simp only [hrun, hrun']
  refine ⟨?_, fun j => ?_⟩
  · obtain ⟨_, log, rfl, hhost⟩ := hafter.host
    exact ⟨log, hhost⟩
  · obtain ⟨added, added', hq, hq', hadded⟩ := (hafter.session j).queue
    rw [List.forall₂_eq_eq_eq] at hadded
    subst hadded
    exact ⟨added, hq, hq'⟩

end Floor

end WebviewBridge
