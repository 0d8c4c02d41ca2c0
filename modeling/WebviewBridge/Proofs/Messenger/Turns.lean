import WebviewBridge.Messenger.Operation
import WebviewBridge.Proofs.Messenger.Books

/-!
# Runs of a messenger

A run is a list of turns.  A turn is the smallest thing that can happen: somebody acts from
outside, the first task of the agenda is done, a request is begun, time passes, the one who waits
for a request looks whether there is news, or gives it up, the transport is replaced.  Turns may
follow each other in any order; so a request may be made, or may end, while listeners are still
being told about a message, or before the answers that a transport gave at once are taken in.

Main statements: every turn is made of entries into the books (`grows_turn`), and everything that
is done with a messenger from outside is a run (`exists_run_act`, `exists_run_request`,
`exists_run_advance`).
-/

namespace WebviewBridge

open Json

namespace Messenger

/-- Something that happens to a messenger. -/
inductive Turn where
  /-- Somebody acts from outside. -/
  | act (a : Action)
  /-- The first task of the agenda is done. -/
  | step
  | request (messageType : String) (payload : Option Value)
  /-- Time passes. -/
  | wait (ms : Nat)
  /-- The one who waits for a request takes up what there is for it. -/
  | resume (id : MessageId)
  | abandon (id : MessageId)
  | reroute (t : Transport)

/-- Carries out an action; what it sets off is still to be done. -/
def beginAct (m : Messenger) (a : Action) : Messenger :=
  (m.perform a).1.schedule (m.perform a).2.1

/-- A messenger after a turn. -/
def turn (m : Messenger) : Turn → Messenger
  | .act a => m.beginAct a
  | .step => m.step
  | .request t p => (m.beginRequest t p).1
  | .wait ms => { m with now := m.now + ms }
  | .resume id => m.resume id
  | .abandon id => m.abandon id
  | .reroute t => m.reroute t

/-- A messenger after some turns. -/
def run (m : Messenger) (ts : List Turn) : Messenger := ts.foldl turn m

@[simp] lemma run_nil (m : Messenger) : m.run [] = m := rfl

@[simp] lemma run_cons (m : Messenger) (t : Turn) (ts : List Turn) :
    m.run (t :: ts) = (m.turn t).run ts := rfl

lemma run_append (m : Messenger) (ts us : List Turn) :
    m.run (ts ++ us) = (m.run ts).run us := List.foldl_append

/-! ## The books after a turn -/

/-- The books of a messenger. -/
def books (m : Messenger) : Books where
  freshIds := m.freshIds
  timeoutMs := m.timeoutMs.toNat
  issued := m.issued
  now := m.now
  pending := m.pending
  replies := m.replies
  refusals := m.refusals
  history := m.history

end Messenger

lemma Event.isNeutral_posted (message : OutgoingMessage) : (posted message).IsNeutral :=
  fun _ h => h

lemma Event.isNeutral_told (label : String) (message : IncomingMessage)
    (content : Option Payload) : (told label message content).IsNeutral :=
  fun _ h => h

lemma Event.isNeutral_acted (label : String) (action : Action) (result : ActionResult) :
    (acted label action result).IsNeutral :=
  fun _ h => h

namespace Pending

variable {p : Pending} {w : Waiting}

lemma answeredBy?_eq_some {x : IncomingMessage} (h : p.answeredBy? x = some w) :
    w ∈ p.entries ∧ x.id = some w.id := by
  obtain ⟨id, hid, hfind⟩ := Option.bind_eq_some_iff.1 h
  obtain ⟨hw, rfl⟩ := find?_eq_some hfind
  exact ⟨hw, hid⟩

lemma answeredBy?_eq_none {x : IncomingMessage} (h : p.answeredBy? x = none) :
    ∀ w ∈ p.entries, x.id ≠ some w.id := by
  intro w hw hid
  rw [answeredBy?, hid, Option.bind_some] at h
  exact find?_eq_none_iff.1 h (mem_ids.2 ⟨w, hw, rfl⟩)

end Pending

namespace Messenger

variable (m : Messenger)

/-! ### Messages that are handed over -/

/-- A message that is handed over is taken, or dropped as the policy has it, or refused.  What comes
back is taken in in any case. -/
lemma handOver_cases (x : OutgoingMessage) :
    (m.transport.post x).outcome = .ok () ∧
        m.handOver x = (m.record (.posted x), (m.transport.post x).answers, .ok ()) ∨
      (∃ e, (m.transport.post x).outcome = .error e ∧ e.isUnavailable = true ∧
        m.policy = .ignore ∧ m.handOver x = (m, (m.transport.post x).answers, .ok ())) ∨
      ∃ e, (m.transport.post x).outcome = .error e ∧
        ¬ (e.isUnavailable = true ∧ m.policy = .ignore) ∧
        m.handOver x = (m, (m.transport.post x).answers, .error (.transport e)) := by
  cases h : (m.transport.post x).outcome with
  | ok u => exact Or.inl ⟨rfl, by simp only [handOver, h]⟩
  | error e =>
    by_cases hignored : e.isUnavailable = true ∧ m.policy = .ignore
    · refine Or.inr (Or.inl ⟨e, rfl, hignored.1, hignored.2, ?_⟩)
      simp only [handOver, h, if_pos hignored]
    · refine Or.inr (Or.inr ⟨e, rfl, hignored, ?_⟩)
      simp only [handOver, h, if_neg hignored]

lemma fst_handOver (x : OutgoingMessage) :
    (m.handOver x).1 = m ∨ (m.handOver x).1 = m.record (.posted x) := by
  rcases m.handOver_cases x with ⟨-, h⟩ | ⟨e, -, -, -, h⟩ | ⟨e, -, -, h⟩
  · exact Or.inr (by rw [h])
  · exact Or.inl (by rw [h])
  · exact Or.inl (by rw [h])

/-- What comes of a handover is a matter of the transport and of what to do about an absent one. -/
lemma snd_handOver_congr (m m' : Messenger) (ht : m'.transport = m.transport)
    (hp : m'.policy = m.policy) (x : OutgoingMessage) : (m'.handOver x).2 = (m.handOver x).2 := by
  simp only [handOver, ht, hp]
  split
  · rfl
  · split <;> rfl

lemma answers_handOver (x : OutgoingMessage) :
    (m.handOver x).2.1 = (m.transport.post x).answers := by
  rcases m.handOver_cases x with ⟨-, h⟩ | ⟨e, -, -, -, h⟩ | ⟨e, -, -, h⟩ <;> rw [h]

lemma grows_handOver (message : OutgoingMessage) :
    m.books.Grows (m.handOver message).1.books := by
  rcases m.fst_handOver message with h | h
  · rw [h]
  · rw [h]
    exact .single (.note _ _ (Event.isNeutral_posted message))

lemma post_eq (t : String) (p : Option Value) :
    m.post t p =
      (((m.compose t p).1.handOver (m.compose t p).2).1,
        ((m.compose t p).1.handOver (m.compose t p).2).2.1.map .receive,
        ((m.compose t p).1.handOver (m.compose t p).2).2.2.map fun () => m.freshIds m.issued) :=
  rfl

lemma grows_post (t : String) (p : Option Value) : m.books.Grows (m.post t p).1.books := by
  have hissue : m.books.Grows (m.compose t p).1.books := .single (.issue m.books)
  exact hissue.trans (grows_handOver _ _)

/-- What is to be done after a post is to take in what came back. -/
lemma tasks_post (t : String) (p : Option Value) :
    (m.post t p).2.1 = (m.transport.post (m.compose t p).2).answers.map .receive := by
  rw [post_eq, answers_handOver]
  rfl

lemma agenda_post (t : String) (p : Option Value) : (m.post t p).1.agenda = m.agenda := by
  have hpost : (m.post t p).1 = ((m.compose t p).1.handOver (m.compose t p).2).1 := rfl
  rw [hpost]
  rcases (m.compose t p).1.fst_handOver (m.compose t p).2 with h | h <;> rw [h] <;> rfl

lemma outcome_post (t : String) (p : Option Value) :
    (m.post t p).2.2 =
      (m.handOver (m.compose t p).2).2.2.map fun () => m.freshIds m.issued := by
  rw [post_eq, ← snd_handOver_congr m (m.compose t p).1 rfl rfl]

/-! ### Tasks -/

/-- A message that is no ping is entered together with the request that it answers. -/
lemma grows_resolve {x : IncomingMessage} (hx : x.messageType ≠ Kind.ping.messageType) :
    m.books.Grows ((m.record (.arrived x)).resolve x).books := by
  rw [resolve]
  split
  · rename_i w hw
    obtain ⟨hmem, hid⟩ := Pending.answeredBy?_eq_some hw
    exact .single (.answer m.books w x hmem ⟨hx, hid⟩)
  · rename_i hnone
    exact .single (.overhear m.books x fun w hw h =>
      Pending.answeredBy?_eq_none hnone w hw h.2)

lemma grows_receive (x : IncomingMessage) : m.books.Grows (m.receive x).1.books := by
  rw [receive]
  split
  · rename_i hping
    have harrived : m.books.Grows (m.record (.arrived x)).books :=
      .single (.note _ _ fun _ h => h.1 hping)
    exact harrived.trans (grows_post (m.record (.arrived x)) Kind.pong.messageType none)
  · rename_i hping
    exact m.grows_resolve hping

lemma grows_perform (a : Action) : m.books.Grows (m.perform a).1.books := by
  cases a with
  | post t p => exact m.grows_post t p
  | frame text =>
    rw [perform]
    split <;> exact .refl _
  | receive message => exact .refl _
  | register label t kind reaction => exact .refl _
  | unregister label =>
    rw [perform]
    split <;> exact .refl _
  | unregisterFrom label t =>
    rw [perform]
    split <;> exact .refl _
  | count t => exact .refl _
  | describe => exact .refl _

lemma grows_tell (l : Listener) (x : IncomingMessage) : m.books.Grows (m.tell l x).1.books := by
  rw [tell]
  split
  · exact .single (.note _ _ (Event.isNeutral_told l.label x none))
  · split
    · exact .single (.note _ _ (Event.isNeutral_told l.label x _))
    · exact .refl _

lemma grows_carryOut (t : Task) : m.books.Grows (m.carryOut t).1.books := by
  cases t with
  | receive x => exact m.grows_receive x
  | tell l x => exact m.grows_tell l x
  | act label a => exact m.grows_perform a
  | note label a r => exact .single (.note _ _ (Event.isNeutral_acted label a r))

lemma grows_step : m.books.Grows m.step.books := by
  rw [step]
  split
  · exact .refl _
  · rename_i t rest _
    exact grows_carryOut { m with agenda := rest } t

/-! ### A request that is begun -/

/-- The messenger with a new request in its table, before the message is handed over. -/
def withRequest (t : String) (p : Option Value) : Messenger :=
  { (m.compose t p).1 with
    pending := m.pending.track
      ⟨(m.compose t p).2.id, t, m.now + m.timeoutMs.toNat⟩ }.record
    (.requested (m.compose t p).2.id t)

lemma beginRequest_eq (t : String) (p : Option Value) :
    m.beginRequest t p =
      ((((m.withRequest t p).handOver (m.compose t p).2).1.schedule
          (((m.withRequest t p).handOver (m.compose t p).2).2.1.map .receive)).keepRefusal
        (m.freshIds m.issued) ((m.withRequest t p).handOver (m.compose t p).2).2.2,
        m.freshIds m.issued) := rfl

/-- A request is known by the next identifier, whatever becomes of its message. -/
lemma snd_beginRequest (t : String) (p : Option Value) :
    (m.beginRequest t p).2 = m.freshIds m.issued := rfl

/-- What came back while the message of a request was handed over is taken in next. -/
lemma agenda_beginRequest (t : String) (p : Option Value) :
    (m.beginRequest t p).1.agenda =
      (m.transport.post (m.compose t p).2).answers.map .receive ++ m.agenda := by
  rw [beginRequest_eq]
  rcases (m.withRequest t p).handOver_cases (m.compose t p).2 with
    ⟨-, h⟩ | ⟨e, -, -, -, h⟩ | ⟨e, -, -, h⟩ <;> rw [h] <;> rfl

/-- A request whose message is taken, or dropped as the policy has it, waits. -/
lemma books_beginRequest_of_ok {t : String} {p : Option Value} {id : MessageId}
    (h : (m.post t p).2.2 = .ok id) :
    (m.beginRequest t p).1.books = m.books.make t ∨
      (m.beginRequest t p).1.books = (m.books.make t).record (.posted (m.compose t p).2) := by
  rw [outcome_post, ← snd_handOver_congr m (m.withRequest t p) rfl rfl] at h
  rw [beginRequest_eq]
  rcases (m.withRequest t p).handOver_cases (m.compose t p).2 with
    ⟨-, hover⟩ | ⟨e, -, -, -, hover⟩ | ⟨e, -, -, hover⟩ <;> rw [hover] at h ⊢
  · exact Or.inr rfl
  · exact Or.inl rfl
  · cases h

/-- What was wrong with a request whose message cannot be posted is kept. -/
lemma books_beginRequest_of_error {t : String} {p : Option Value} {err : MessengerError}
    (h : (m.post t p).2.2 = .error err) :
    (m.beginRequest t p).1.books = (m.books.make t).refuse m.books.nextId err := by
  rw [outcome_post, ← snd_handOver_congr m (m.withRequest t p) rfl rfl] at h
  rw [beginRequest_eq]
  rcases (m.withRequest t p).handOver_cases (m.compose t p).2 with
    ⟨-, hover⟩ | ⟨e, -, -, -, hover⟩ | ⟨e, -, -, hover⟩ <;> rw [hover] at h ⊢
  · cases h
  · cases h
  · cases h
    rfl

lemma grows_beginRequest (t : String) (p : Option Value) :
    m.books.Grows (m.beginRequest t p).1.books := by
  cases h : (m.post t p).2.2 with
  | ok id =>
    rcases m.books_beginRequest_of_ok h with hbooks | hbooks
    · rw [hbooks]
      exact .single (.make _ t)
    · rw [hbooks]
      exact (Books.Grows.single (.make _ t)).trans
        (.single (.note _ _ (Event.isNeutral_posted _)))
  | error err =>
    rw [m.books_beginRequest_of_error h]
    exact .single (.refuse _ t err)

/-! ### Turns and runs -/

lemma grows_resume (id : MessageId) : m.books.Grows (m.resume id).books := by
  rw [resume]
  split
  · rename_i o ho
    exact .single (.resume m.books id o ho)
  · exact .refl _

lemma isOpen_iff (id : MessageId) : m.isOpen id = true ↔ m.books.IsOpen id := by
  rw [isOpen, decide_eq_true_iff]
  rfl

lemma grows_abandon (id : MessageId) : m.books.Grows (m.abandon id).books := by
  rw [abandon]
  split
  · rename_i hopen
    exact .single (.abandon m.books id ((m.isOpen_iff id).1 hopen))
  · exact .refl _

/-- Every turn is made of entries into the books. -/
theorem grows_turn (t : Turn) : m.books.Grows (m.turn t).books := by
  cases t with
  | act a => exact m.grows_perform a
  | step => exact m.grows_step
  | request t p => exact m.grows_beginRequest t p
  | wait ms => exact .single (.wait m.books ms)
  | resume id => exact m.grows_resume id
  | abandon id => exact m.grows_abandon id
  | reroute t => exact .refl _

theorem grows_run (ts : List Turn) : m.books.Grows (m.run ts).books := by
  induction ts generalizing m with
  | nil => exact .refl _
  | cons t ts ih => exact (m.grows_turn t).trans (ih (m.turn t))

/-! ## Operations from outside are runs -/

lemma exists_run_work (n : ℕ) : ∃ ts, m.work n = m.run ts := by
  induction n generalizing m with
  | zero => exact ⟨[], rfl⟩
  | succ n ih =>
    rw [work]
    split
    · exact ⟨[], rfl⟩
    · obtain ⟨ts, hts⟩ := ih m.step
      exact ⟨.step :: ts, hts⟩

/-- To end all requests for which there are news is to let each of those who wait look. -/
lemma conclude_eq_run : m.conclude = m.run (m.ready.map .resume) := by
  rw [run, List.foldl_map]
  rfl

lemma exists_run_settle : ∃ ts, m.settle = m.run ts := by
  obtain ⟨ts, hts⟩ := m.exists_run_work patience
  exact ⟨ts ++ (m.run ts).ready.map .resume, by rw [settle, hts, conclude_eq_run, run_append]⟩

/-- To act from outside, and do all that this sets off, is a run. -/
theorem exists_run_act (a : Action) : ∃ ts, (m.act a).1 = m.run (.act a :: ts) :=
  (m.turn (.act a)).exists_run_settle

/-- To make a request, and do all that this sets off, is a run. -/
theorem exists_run_request (t : String) (p : Option Value) :
    ∃ ts, (m.request t p).1 = m.run (.request t p :: ts) :=
  (m.turn (.request t p)).exists_run_settle

/-- To let time pass, and end the requests for which there are news then, is a run. -/
theorem exists_run_advance (ms : ℕ) : ∃ ts, m.advance ms = m.run (.wait ms :: ts) :=
  ⟨_, conclude_eq_run { m with now := m.now + ms }⟩

end Messenger

end WebviewBridge
