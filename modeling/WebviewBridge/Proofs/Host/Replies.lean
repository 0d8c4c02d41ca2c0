import WebviewBridge.Proofs.Host.Handlers

/-!
# The replies to a frame

What a frame adds to the queue of its session and to the pongs counted there, as a table over what
the frame asks for (`Creator.Responds`).  Every row of a message that decodes carries the identifier
of that message.
-/

namespace WebviewBridge

open Json

namespace Creator

/-- What a host with a creator does about a message, by what the message asks for: the host
afterwards, the messages added to the queue of the session, and the pongs counted. -/
inductive Responds (c : Creator) (h : Host) (m : OutgoingMessage) :
    Demand → Host → List IncomingMessage → Nat → Prop
  | pong : Responds c h m .pong h [] 1
  | tokens : Responds c h m .tokens h [m.answer (.tokens h.state.credentials.toWire)] 0
  | updated (t : AccountTokens) (h' : Host) (hk : h.keeper ≠ .stopped)
      (hstate : h'.state = { h.state.applyAll h.queue with credentials := .ofWire t }) :
      Responds c h m (.update (.ok t)) h' [m.acknowledgement] 0
  | notUpdated (t : AccountTokens) (e : HostError) (hk : h.keeper = .stopped) :
      Responds c h m (.update (.ok t)) h [failureNotice m e] 0
  | updateUndecodable (e : HostError) : Responds c h m (.update (.error e)) h [failureNotice m e] 0
  | drafted (messages : List ChatMessage) (log : List LogEntry) (plans : List String)
      (last : Payload) (hlast : last.kind = .planCompleted ∨ last.kind = .errorNotice)
      (hscript : planPayloads "" (c.planner messages) = plans.map .planStream ++ [last]) :
      Responds c h m (.draft (.ok messages)) { h with log }
        ((plans.map fun plan => m.answer (.planStream plan)) ++ [m.answer last]) 0
  | draftUndecodable (e : HostError) : Responds c h m (.draft (.error e)) h [failureNotice m e] 0
  | submitted (idea : SubmitIdea) (h' : Host) (hk : h.keeper ≠ .stopped)
      (hsteps : (runSteps (c.submitSteps h.now idea) h.files).2 = .ok ()) :
      Responds c h m (.idea (.ok idea)) h' [] 0
  | notSubmitted (idea : SubmitIdea) (h' : Host) (e : HostError)
      (hfail : h.keeper = .stopped ∨ (runSteps (c.submitSteps h.now idea) h.files).2 = .error e) :
      Responds c h m (.idea (.ok idea)) h' [failureNotice m e] 0
  | ideaUndecodable (e : HostError) : Responds c h m (.idea (.error e)) h [failureNotice m e] 0
  | closed (h' : Host) (hk : h.keeper ≠ .stopped) : Responds c h m .close h' [] 0
  | notClosed (e : HostError) (hk : h.keeper = .stopped) :
      Responds c h m .close h [failureNotice m e] 0
  | ignored (log : List LogEntry) : Responds c h m .unknown { h with log } [] 0

/-- What a host does about the text of a frame.  A text that is no message is answered with one
error that belongs to no request, and changes nothing. -/
def RespondsTo (c : Creator) (h : Host) (text : String) (h' : Host)
    (added : List IncomingMessage) (pongs : Nat) : Prop :=
  match OutgoingMessage.parse text with
  | .ok m => c.Responds h m m.demand h' added pongs
  | .error refusal =>
    h' = h ∧ added = [refusalNotice refusal] ∧ pongs = 0

variable {c : Creator} {h h' : Host} {s : Session} {m : OutgoingMessage} {d : Demand}
  {added : List IncomingMessage} {pongs : Nat}

/-- Whatever is added for a message answers that message. -/
lemma Responds.id_eq (hr : c.Responds h m d h' added pongs) {x : IncomingMessage}
    (hx : x ∈ added) : x.id = some m.id := by
  cases hr with
  | pong | submitted | closed | ignored => cases hx
  | drafted messages log plans last hlast hscript =>
    rcases List.mem_append.1 hx with hx | hx
    · obtain ⟨plan, _, rfl⟩ := List.mem_map.1 hx
      rfl
    · obtain rfl := List.mem_singleton.1 hx
      rfl
  | _ =>
    obtain rfl := List.mem_singleton.1 hx
    rfl

/-- The handler of a demand does to an open session what the table says, its failure being
reported. -/
lemma exists_responds_meet (c : Creator) (h : Host) (hs : s.isOpen = true) (m : OutgoingMessage)
    (hd : d ≠ .unreadable) (hpong : d ≠ .pong) :
    ∃ h' added, c.Responds h m d h' added 0 ∧
      ((c.meet m d).runOn h s = (h', s.enqueue added, .ok ()) ∨
        ∃ e, (c.meet m d).runOn h s = (h', s, .error e) ∧ added = [failureNotice m e]) := by
  cases d with
  | unreadable => exact absurd rfl hd
  | pong => exact absurd rfl hpong
  | tokens =>
    refine ⟨h, _, .tokens, Or.inl ?_⟩
    rw [meet, runOn_answerTokens, Session.send_of_isOpen hs]
  | update content =>
    rw [meet]
    cases content with
    | error e =>
      refine ⟨h, _, .updateUndecodable e, Or.inr ⟨e, ?_, rfl⟩⟩
      rw [Handling.runOn_ofExcept_bind_error]
    | ok t =>
      -- whether the tokens are stored is up to the keeper
      rw [Handling.runOn_ofExcept_bind_ok]
      by_cases hk : h.keeper = .stopped
      · exact ⟨h, _, .notUpdated t _ hk, Or.inr ⟨_, runOn_updateTokens_of_stopped hk m t, rfl⟩⟩
      · obtain ⟨applied, log, hupdate⟩ := runOn_updateTokens_of_alive (s := s) hk m t
        rw [Session.send_of_isOpen hs] at hupdate
        exact ⟨_, _, .updated t _ hk rfl, Or.inl hupdate⟩
  | draft content =>
    rw [meet]
    cases content with
    | error e =>
      refine ⟨h, _, .draftUndecodable e, Or.inr ⟨e, ?_, rfl⟩⟩
      rw [Handling.runOn_ofExcept_bind_error]
    | ok messages =>
      rw [Handling.runOn_ofExcept_bind_ok]
      obtain ⟨log, hplan⟩ :=
        runOn_streamPlan_of_isOpen (h := h) hs m "" (c.planner messages)
      obtain ⟨plans, last, hscript, hlast⟩ := exists_planPayloads_eq "" (c.planner messages)
      refine ⟨_, _, .drafted messages log plans last hlast hscript, Or.inl ?_⟩
      rw [draft, hplan, hscript, List.map_append, List.map_map]
      rfl
  | idea content =>
    rw [meet]
    cases content with
    | error e =>
      refine ⟨h, _, .ideaUndecodable e, Or.inr ⟨e, ?_, rfl⟩⟩
      rw [Handling.runOn_ofExcept_bind_error]
    | ok idea =>
      rw [Handling.runOn_ofExcept_bind_ok]
      by_cases hk : h.keeper = .stopped
      · exact ⟨h, _, .notSubmitted idea h _ (Or.inl hk),
          Or.inr ⟨_, runOn_submit_of_stopped hk c idea, rfl⟩⟩
      · obtain ⟨applied, log, hsubmit⟩ := runOn_submit_of_alive (s := s) hk c idea
        -- the steps on files decide the outcome; without a project there are none
        rcases hsteps : (runSteps (c.submitSteps h.now idea) h.files).2 with e | ⟨⟩
        · rw [hsteps] at hsubmit
          exact ⟨_, _, .notSubmitted idea _ e (Or.inr hsteps), Or.inr ⟨e, hsubmit, rfl⟩⟩
        · rw [hsteps] at hsubmit
          exact ⟨_, [], .submitted idea _ hk hsteps,
            Or.inl (hsubmit.trans (by rw [Session.enqueue_nil]))⟩
  | close =>
    by_cases hk : h.keeper = .stopped
    · exact ⟨h, _, .notClosed _ hk, Or.inr ⟨_, runOn_changeState_of_stopped hk _, rfl⟩⟩
    · obtain ⟨applied, log, hmode⟩ := runOn_changeState_of_alive (s := s) hk .overlayClosed
      exact ⟨_, [], .closed _ hk, Or.inl (hmode.trans (by rw [Session.enqueue_nil]))⟩
  | unknown =>
    obtain ⟨log, hlog⟩ := runOn_meet_unknown (h := h) (s := s) (c := c) (m := m)
    exact ⟨_, [], .ignored log, Or.inl (hlog.trans (by rw [Session.enqueue_nil]))⟩

/-- **A frame adds to an open session what the table says, and nothing else.** -/
theorem exists_respondsTo (c : Creator) (h : Host) (hs : s.isOpen = true) (text : String) :
    ∃ h' added pongs, c.RespondsTo h text h' added pongs ∧
      (c.handleFrame text).run h s =
        (h', { s.enqueue added with pongs := s.pongs + pongs }, ()) := by
  cases hm : OutgoingMessage.parse text with
  | error refusal =>
    refine ⟨h, [refusalNotice refusal], 0, ?_, ?_⟩
    · rw [RespondsTo, hm]
      exact ⟨rfl, rfl, rfl⟩
    · rw [run_handleFrame_of_error hm, run_report_of_isOpen hs]
      rfl
  | ok m =>
    simp only [RespondsTo, hm, run_handleFrame_of_ok hm]
    by_cases hpong : m.messageType = Kind.pong.messageType
    · refine ⟨h, [], 1, ?_, ?_⟩
      · rw [OutgoingMessage.demand_of_pong hpong]
        exact .pong
      · rw [run_handleMessage_of_pong hpong, Session.enqueue_nil]
        rfl
    · obtain ⟨hd, hd'⟩ := OutgoingMessage.demand_of_not_pong hpong
      obtain ⟨h', added, hresponds, hrun | ⟨e, hrun, rfl⟩⟩ :=
        exists_responds_meet c h hs m hd hd'
      · exact ⟨h', added, 0, hresponds, run_handleMessage_of_ok hpong hrun⟩
      · refine ⟨h', [failureNotice m e], 0, hresponds, ?_⟩
        rw [run_handleMessage_of_error hpong hrun, run_report_of_isOpen hs]
        rfl

end Creator

end WebviewBridge
