import WebviewBridge.Proofs.Envelope.Types
import WebviewBridge.Proofs.Messenger.Resuming

/-!
# Pings and pongs of a messenger

A messenger that posts no pong on its own, and to which nobody but the host passes pings, is plain
(`Messenger.IsPlain`): neither what is still to be done nor what the listeners will do about any
message posts a pong.  Main statements: whatever a plain messenger is asked to do, and whatever that
sets off, it goes on without a pong (`Messenger.IsPlain.goes_begin`); a ping makes it post one pong
under a fresh identifier, and does nothing else (`Messenger.receive_of_ping`).
-/

namespace WebviewBridge

open Json

/-! ## Who posts no pong -/

/-- An action that posts no pong and takes in no ping, and neither does a listener that it
registers, whatever this one is told about. -/
inductive Action.IsPlain : Action → Prop
  | post {t : String} {p : Option Value} (ht : t ≠ Kind.pong.messageType) : IsPlain (.post t p)
  | frame {text : String} (htext : IncomingMessage.isPing text = false) : IsPlain (.frame text)
  | receive {x : IncomingMessage} (hx : x.messageType ≠ Kind.ping.messageType) :
      IsPlain (.receive x)
  | register {label t : String} {kind : Option Kind} {reaction : IncomingMessage → List Action}
      (hreaction : ∀ x, ∀ a ∈ reaction x, IsPlain a) : IsPlain (.register label t kind reaction)
  | unregister (label : String) : IsPlain (.unregister label)
  | unregisterFrom (label t : String) : IsPlain (.unregisterFrom label t)
  | count (t : String) : IsPlain (.count t)
  | describe : IsPlain .describe

/-- A listener that only ever does plain things. -/
def Listener.IsPlain (l : Listener) : Prop := ∀ x, ∀ a ∈ l.reaction x, a.IsPlain

/-- A task that posts no pong, and sets none off. -/
def Task.IsPlain : Task → Prop
  | receive x => x.messageType ≠ Kind.ping.messageType
  | tell l _ => l.IsPlain
  | act _ a => a.IsPlain
  | note _ _ _ => True

/-- An operation that posts no pong and takes in no ping. -/
def Operation.IsPlain : Operation → Prop
  | immediate a => a.IsPlain
  | request t _ | send t _ _ => t ≠ Kind.pong.messageType
  | requestTyped p _ | sendTyped p _ => p.messageType ≠ Kind.pong.messageType

/-- The identifier that is used up by an event. -/
def Event.uses : Event → Option MessageId
  | requested id _ => some id
  | posted x => some x.id
  | _ => none

namespace Messenger

/-- A messenger with an open transport that posts no pong, and has no ping to take in. -/
structure IsPlain (m : Messenger) : Prop where
  transport : m.transport = .queue
  listeners : ∀ e ∈ m.registry.entries, e.2.IsPlain
  agenda : ∀ t ∈ m.agenda, t.IsPlain

/-- From a messenger to a later one: it has posted no pong since, and used up only identifiers of
its own. -/
structure Goes (m m' : Messenger) : Prop where
  isPlain : m'.IsPlain
  destination_eq : m'.destination = m.destination
  freshIds_eq : m'.freshIds = m.freshIds
  issued_le : m.issued ≤ m'.issued
  history : ∃ new, m'.history = m.history ++ new ∧
    (∀ x, .posted x ∈ new → x.messageType ≠ Kind.pong.messageType) ∧
    ∀ e ∈ new, ∀ id ∈ e.uses, ∃ n < m'.issued, id = m.freshIds n

variable {m m' m'' : Messenger}

lemma Goes.trans (h : m.Goes m') (h' : m'.Goes m'') : m.Goes m'' where
  isPlain := h'.isPlain
  destination_eq := h'.destination_eq.trans h.destination_eq
  freshIds_eq := h'.freshIds_eq.trans h.freshIds_eq
  issued_le := Nat.le_trans h.issued_le h'.issued_le
  history := by
    obtain ⟨new, heq, hposted, huses⟩ := h.history
    obtain ⟨new', heq', hposted', huses'⟩ := h'.history
    refine ⟨new ++ new', by rw [heq', heq, List.append_assoc], ?_, ?_⟩
    · exact fun x hx => (List.mem_append.1 hx).elim (hposted x) (hposted' x)
    · intro e he id hid
      rcases List.mem_append.1 he with he | he
      · obtain ⟨n, hn, hfresh⟩ := huses e he id hid
        exact ⟨n, Nat.lt_of_lt_of_le hn h'.issued_le, hfresh⟩
      · rw [← h.freshIds_eq]
        exact huses' e he id hid

namespace IsPlain

/-- Nothing more is on record. -/
lemma goes (hm' : m'.IsPlain) (hdestination : m'.destination = m.destination)
    (hfresh : m'.freshIds = m.freshIds) (hissued : m'.issued = m.issued)
    (hhistory : m'.history = m.history) : m.Goes m' :=
  ⟨hm', hdestination, hfresh, Nat.le_of_eq hissued.symm,
    [], by rw [hhistory, List.append_nil], fun _ h => absurd h List.not_mem_nil,
    List.forall_mem_nil _⟩

/-- There is an event more on record, which is no pong, and uses up no identifier but its own. -/
lemma goes_entering (hm' : m'.IsPlain) (hdestination : m'.destination = m.destination)
    (hfresh : m'.freshIds = m.freshIds) (hissued : m.issued ≤ m'.issued) (e : Event)
    (hhistory : m'.history = m.history ++ [e])
    (hposted : ∀ x, e = .posted x → x.messageType ≠ Kind.pong.messageType)
    (huses : ∀ id ∈ e.uses, ∃ n < m'.issued, id = m.freshIds n) : m.Goes m' where
  isPlain := hm'
  destination_eq := hdestination
  freshIds_eq := hfresh
  issued_le := hissued
  history := by
    refine ⟨[e], hhistory, fun x hx => ?_, fun d hd id hid => ?_⟩
    · exact hposted x (List.mem_singleton.1 hx).symm
    · rw [List.mem_singleton.1 hd] at hid
      exact huses id hid

lemma goes_refl (hm : m.IsPlain) : m.Goes m :=
  hm.goes rfl rfl rfl rfl

lemma goes_record (hm : m.IsPlain) {e : Event} (he : e.uses = none) : m.Goes (m.record e) := by
  refine goes_entering ⟨hm.transport, hm.listeners, hm.agenda⟩ rfl rfl (Nat.le_refl _) e rfl ?_ ?_
  · rintro x rfl
    cases he
  · intro id hid
    rw [he] at hid
    cases hid

lemma goes_dismiss (hm : m.IsPlain) (id : MessageId) : m.Goes (m.dismiss id) :=
  goes ⟨hm.transport, hm.listeners, hm.agenda⟩ rfl rfl rfl rfl

/-! ## Tasks -/

lemma handOver_eq (hm : m.IsPlain) (x : OutgoingMessage) :
    m.handOver x = (m.record (.posted x), [], .ok ()) := by
  rw [handOver, hm.transport]
  rfl

lemma post_eq (hm : m.IsPlain) (t : String) (p : Option Value) :
    m.post t p = ((m.compose t p).1.record (.posted (m.compose t p).2), [],
      .ok (m.freshIds m.issued)) := by
  have hplain : (m.compose t p).1.IsPlain := ⟨hm.transport, hm.listeners, hm.agenda⟩
  rw [Messenger.post_eq, hplain.handOver_eq]
  rfl

lemma goes_post (hm : m.IsPlain) {t : String} (ht : t ≠ Kind.pong.messageType)
    (p : Option Value) : m.Goes ((m.compose t p).1.record (.posted (m.compose t p).2)) := by
  refine goes_entering ⟨hm.transport, hm.listeners, hm.agenda⟩ rfl rfl (Nat.le_succ _) _ rfl ?_ ?_
  · rintro x ⟨⟩
    exact ht
  · rintro id ⟨⟩
    exact ⟨m.issued, Nat.lt_succ_self _, rfl⟩

lemma goes_resolve (hm : m.IsPlain) (x : IncomingMessage) : m.Goes (m.resolve x) := by
  rw [resolve]
  split
  · exact goes ⟨hm.transport, hm.listeners, hm.agenda⟩ rfl rfl rfl rfl
  · exact hm.goes_refl

/-- A plain action is carried out without a pong, and so is what it sets off. -/
lemma goes_perform (hm : m.IsPlain) {a : Action} (ha : a.IsPlain) :
    m.Goes (m.perform a).1 ∧ ∀ t ∈ (m.perform a).2.1, t.IsPlain := by
  have hremoved : ∀ s, m.Goes (m.unregister s).1 := fun s =>
    goes ⟨hm.transport, fun e he => hm.listeners e (List.mem_filter.1 he).1, hm.agenda⟩
      rfl rfl rfl rfl
  cases ha with
  | post ht =>
    rw [perform, hm.post_eq]
    exact ⟨hm.goes_post ht _, List.forall_mem_nil _⟩
  | @frame text htext =>
    rw [perform]
    split
    · rename_i x hparse
      refine ⟨hm.goes_refl, fun t ht => ?_⟩
      rw [List.mem_singleton.1 ht]
      rw [IncomingMessage.isPing, hparse] at htext
      exact of_decide_eq_false htext
    · exact ⟨hm.goes_refl, List.forall_mem_nil _⟩
  | receive hx =>
    refine ⟨hm.goes_refl, fun t ht => ?_⟩
    rw [List.mem_singleton.1 ht]
    exact hx
  | register hreaction =>
    refine ⟨goes ⟨hm.transport, fun e he => ?_, hm.agenda⟩ rfl rfl rfl rfl, List.forall_mem_nil _⟩
    rcases List.mem_append.1 he with he | he
    · exact hm.listeners e he
    · rw [List.mem_singleton.1 he]
      exact hreaction
  | unregister label =>
    rw [perform]
    split
    · exact ⟨hremoved _, List.forall_mem_nil _⟩
    · exact ⟨hm.goes_refl, List.forall_mem_nil _⟩
  | unregisterFrom label t =>
    rw [perform]
    split
    · exact ⟨hremoved _, List.forall_mem_nil _⟩
    · exact ⟨hm.goes_refl, List.forall_mem_nil _⟩
  | count t => exact ⟨hm.goes_refl, List.forall_mem_nil _⟩
  | describe => exact ⟨hm.goes_refl, List.forall_mem_nil _⟩

/-- A message that is no ping is taken in without a pong. -/
lemma goes_receive (hm : m.IsPlain) {x : IncomingMessage}
    (hx : x.messageType ≠ Kind.ping.messageType) :
    m.Goes (m.receive x).1 ∧ ∀ t ∈ (m.receive x).2, t.IsPlain := by
  have harrived : m.Goes (m.record (.arrived x)) := hm.goes_record rfl
  have hresolved := harrived.isPlain.goes_resolve x
  rw [receive, if_neg hx]
  refine ⟨harrived.trans hresolved, fun t ht => ?_⟩
  obtain ⟨l, hl, rfl⟩ := List.mem_map.1 ht
  obtain ⟨e, he, rfl⟩ := List.mem_map.1 hl
  exact hresolved.isPlain.listeners e (List.mem_filter.1 he).1

lemma goes_tell (hm : m.IsPlain) {l : Listener} (hl : l.IsPlain) (x : IncomingMessage) :
    m.Goes (m.tell l x).1 ∧ ∀ t ∈ (m.tell l x).2, t.IsPlain := by
  have hreactions : ∀ t ∈ (l.reaction x).map (Task.act l.label), t.IsPlain := by
    intro t ht
    obtain ⟨a, ha, rfl⟩ := List.mem_map.1 ht
    exact hl x a ha
  rw [tell]
  split
  · exact ⟨hm.goes_record rfl, hreactions⟩
  · split
    · exact ⟨hm.goes_record rfl, hreactions⟩
    · exact ⟨hm.goes_refl, List.forall_mem_nil _⟩

/-- A plain task is done without a pong, and so is what it sets off. -/
theorem goes_carryOut (hm : m.IsPlain) {t : Task} (ht : t.IsPlain) :
    m.Goes (m.carryOut t).1 ∧ ∀ u ∈ (m.carryOut t).2, u.IsPlain := by
  cases t with
  | receive x => exact hm.goes_receive ht
  | tell l x => exact hm.goes_tell ht x
  | act label a =>
    obtain ⟨hgoes, htasks⟩ := hm.goes_perform ht
    refine ⟨hgoes, fun u hu => ?_⟩
    rcases List.mem_append.1 hu with hu | hu
    · exact htasks u hu
    · rw [List.mem_singleton.1 hu]
      trivial
  | note label a r => exact ⟨hm.goes_record rfl, List.forall_mem_nil _⟩

/-! ## Whatever a messenger is asked to do -/

lemma goes_schedule (hm : m.IsPlain) {ts : List Task} (hts : ∀ t ∈ ts, t.IsPlain) :
    m.Goes (m.schedule ts) := by
  refine goes ⟨hm.transport, hm.listeners, fun t ht => ?_⟩ rfl rfl rfl rfl
  exact (List.mem_append.1 ht).elim (hts t) (hm.agenda t)

lemma goes_step (hm : m.IsPlain) : m.Goes m.step := by
  rw [step]
  split
  · exact hm.goes_refl
  · rename_i t rest hagenda
    have hplain : ∀ u ∈ t :: rest, u.IsPlain := fun u hu => hm.agenda u (hagenda ▸ hu)
    have hrest : m.Goes { m with agenda := rest } :=
      goes ⟨hm.transport, hm.listeners, fun u hu => hplain u (List.mem_cons_of_mem t hu)⟩
        rfl rfl rfl rfl
    obtain ⟨hgoes, htasks⟩ := hrest.isPlain.goes_carryOut (hplain t List.mem_cons_self)
    exact (hrest.trans hgoes).trans (hgoes.isPlain.goes_schedule htasks)

lemma goes_work (hm : m.IsPlain) (n : ℕ) : m.Goes (work n m) := by
  induction n generalizing m with
  | zero => exact hm.goes_refl
  | succ n ih =>
    rw [work]
    split
    · exact hm.goes_refl
    · exact hm.goes_step.trans (ih hm.goes_step.isPlain)

/-- A request ends without a pong. -/
lemma goes_resume (hm : m.IsPlain) (id : MessageId) : m.Goes (m.resume id) := by
  rw [resume]
  split
  · have hdismissed := hm.goes_dismiss id
    exact hdismissed.trans (hdismissed.isPlain.goes_record rfl)
  · exact hm.goes_refl

lemma goes_conclude (hm : m.IsPlain) : m.Goes m.conclude := by
  have hall : ∀ ids : List MessageId, m.Goes (ids.foldl resume m) := by
    intro ids
    induction ids generalizing m with
    | nil => exact hm.goes_refl
    | cons id ids ih => exact (hm.goes_resume id).trans (ih (hm.goes_resume id).isPlain)
  exact hall _

lemma goes_settle (hm : m.IsPlain) : m.Goes m.settle :=
  (hm.goes_work patience).trans (hm.goes_work patience).isPlain.goes_conclude

lemma goes_act (hm : m.IsPlain) {a : Action} (ha : a.IsPlain) : m.Goes (m.act a).1 := by
  obtain ⟨hgoes, htasks⟩ := hm.goes_perform ha
  have hscheduled := hgoes.isPlain.goes_schedule htasks
  exact (hgoes.trans hscheduled).trans hscheduled.isPlain.goes_settle

lemma goes_request (hm : m.IsPlain) {t : String} (ht : t ≠ Kind.pong.messageType)
    (p : Option Value) : m.Goes (m.request t p).1 := by
  have hmade : m.Goes (m.withRequest t p) := by
    refine goes_entering ⟨hm.transport, hm.listeners, hm.agenda⟩ rfl rfl (Nat.le_succ _) _ rfl
      nofun ?_
    rintro id ⟨⟩
    exact ⟨m.issued, Nat.lt_succ_self _, rfl⟩
  have hposted : (m.withRequest t p).Goes
      ((m.withRequest t p).record (.posted (m.compose t p).2)) := by
    refine goes_entering ⟨hm.transport, hm.listeners, hm.agenda⟩ rfl rfl (Nat.le_refl _) _ rfl ?_ ?_
    · rintro x ⟨⟩
      exact ht
    · rintro id ⟨⟩
      exact ⟨m.issued, Nat.lt_succ_self _, rfl⟩
  have hbegun : (m.beginRequest t p).1 =
      ((m.withRequest t p).record (.posted (m.compose t p).2)).schedule [] := by
    rw [beginRequest_eq, hmade.isPlain.handOver_eq]
    rfl
  have hscheduled := hposted.isPlain.goes_schedule (List.forall_mem_nil Task.IsPlain)
  have hrequest : (m.request t p).1 = (m.beginRequest t p).1.settle := rfl
  rw [hrequest, hbegun]
  exact ((hmade.trans hposted).trans hscheduled).trans hscheduled.isPlain.goes_settle

lemma goes_dispatch (hm : m.IsPlain) {t : String} (ht : t ≠ Kind.pong.messageType)
    (p : Option Value) : m.Goes (m.dispatch t p).1 := by
  have hact := hm.goes_act (.post (p := p) ht)
  rw [dispatch]
  split <;> rename_i heq <;> rw [heq] at hact <;> exact hact

/-- **A plain operation, and all that it sets off, goes on without a pong.** -/
theorem goes_begin (hm : m.IsPlain) {o : Operation} (ho : o.IsPlain) : m.Goes (m.begin o).1 := by
  cases o with
  | immediate a => exact hm.goes_act ho
  | request t p => exact hm.goes_request ho p
  | send t p wait =>
    cases wait with
    | true => exact hm.goes_request ho p
    | false => exact hm.goes_dispatch ho p
  | requestTyped p reply => exact hm.goes_request ho _
  | sendTyped p wait =>
    cases wait with
    | true => exact hm.goes_request ho _
    | false => exact hm.goes_dispatch ho _

lemma goes_abandon (hm : m.IsPlain) (id : MessageId) : m.Goes (m.abandon id) := by
  rw [abandon]
  split
  · have hdismissed := hm.goes_dismiss id
    exact hdismissed.trans (hdismissed.isPlain.goes_record rfl)
  · exact hm.goes_refl

lemma goes_advance (hm : m.IsPlain) (ms : ℕ) : m.Goes (m.advance ms) := by
  have hlater : m.Goes { m with now := m.now + ms } :=
    goes ⟨hm.transport, hm.listeners, hm.agenda⟩ rfl rfl rfl rfl
  exact hlater.trans hlater.isPlain.goes_conclude

end IsPlain

/-! ## Requests that may wait on -/

lemma isPrompt_act (m : Messenger) (a : Action) : (m.act a).1.IsPrompt := isPrompt_conclude _

lemma isPrompt_dispatch (m : Messenger) (t : String) (p : Option Value) :
    (m.dispatch t p).1.IsPrompt := by
  have hact := m.isPrompt_act (.post t p)
  rw [dispatch]
  split <;> rename_i heq <;> rw [heq] at hact <;> exact hact

/-- After an operation, and all that it sets off, the requests for which there are news have
ended. -/
lemma isPrompt_begin (m : Messenger) (o : Operation) : (m.begin o).1.IsPrompt := by
  cases o with
  | immediate a => exact m.isPrompt_act a
  | request t p => exact isPrompt_conclude _
  | send t p wait =>
    cases wait with
    | true => exact isPrompt_conclude _
    | false => exact m.isPrompt_dispatch t p
  | requestTyped p reply => exact isPrompt_conclude _
  | sendTyped p wait =>
    cases wait with
    | true => exact isPrompt_conclude _
    | false => exact m.isPrompt_dispatch _ _

/-! ## Pings -/

/-- The pong that a messenger answers the next ping with. -/
def pong (m : Messenger) : OutgoingMessage where
  id := m.freshIds m.issued
  destination := m.destination
  messageType := Kind.pong.messageType
  payload := none

/-- A messenger that has taken in a ping and posted a pong, and is otherwise as it was. -/
def echo (m : Messenger) (x : IncomingMessage) : Messenger :=
  { m with issued := m.issued + 1, history := m.history ++ [.arrived x, .posted m.pong] }

/-- A messenger that has answered a ping, and gone on with what was still to be done. -/
def answer (m : Messenger) (x : IncomingMessage) : Messenger :=
  ((m.echo x).work (patience - 1)).conclude

/-- With nothing left to be done, a ping is answered and that is all. -/
lemma answer_of_idle (hidle : m.agenda = []) (hprompt : m.IsPrompt) (x : IncomingMessage) :
    m.answer x = m.echo x := by
  have hecho : (m.echo x).agenda.isEmpty = true := List.isEmpty_iff.2 hidle
  have hwork : (m.echo x).work (patience - 1) = m.echo x := by
    change work (patience - 2 + 1) (m.echo x) = m.echo x
    rw [work, if_pos hecho]
  have hwait : (m.echo x).IsPrompt := hprompt
  rw [answer, hwork, hwait.conclude_eq]

namespace IsPlain

lemma echo (hm : m.IsPlain) (x : IncomingMessage) : (m.echo x).IsPlain :=
  ⟨hm.transport, hm.listeners, hm.agenda⟩

/-- A messenger that has answered a ping goes on without another pong. -/
lemma goes_answer (hm : m.IsPlain) (x : IncomingMessage) : (m.echo x).Goes (m.answer x) := by
  have hwork := (hm.echo x).goes_work (patience - 1)
  exact hwork.trans hwork.isPlain.goes_conclude

/-- **A ping is answered by one pong, and goes no further.** -/
theorem receive_of_ping (hm : m.IsPlain) {x : IncomingMessage}
    (hx : x.messageType = Kind.ping.messageType) : m.receive x = (m.echo x, []) := by
  have harrived : (m.record (.arrived x)).IsPlain := ⟨hm.transport, hm.listeners, hm.agenda⟩
  have hhistory : m.history ++ [.arrived x] ++ [.posted m.pong] =
      m.history ++ [.arrived x, .posted m.pong] := List.append_assoc _ _ _
  rw [receive, if_pos hx, harrived.post_eq, Messenger.echo, ← hhistory]
  rfl

/-- The text of a ping is taken in before anything else that is to be done. -/
lemma act_frame_of_ping (hm : m.IsPlain) {x : IncomingMessage} {text : String}
    (hparse : IncomingMessage.parse text = .ok x) (hx : x.messageType = Kind.ping.messageType) :
    (m.act (.frame text)).1 = m.answer x := by
  have hstep : (m.schedule [.receive x]).step = m.echo x := by
    change (m.receive x).1.schedule (m.receive x).2 = m.echo x
    rw [hm.receive_of_ping hx]
    rfl
  have hact : (m.act (.frame text)).1 =
      (work (patience - 1 + 1) (m.schedule [.receive x])).conclude := by
    rw [act, perform_frame hparse]
    rfl
  have hbusy : ¬ (m.schedule [.receive x]).agenda.isEmpty = true := Bool.false_ne_true
  rw [hact, work, if_neg hbusy, hstep, answer]

end IsPlain

end Messenger

end WebviewBridge
