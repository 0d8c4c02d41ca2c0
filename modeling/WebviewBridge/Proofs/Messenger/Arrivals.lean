import WebviewBridge.Proofs.Messenger.Resuming
import WebviewBridge.Proofs.Messenger.Working

/-!
# What comes in

A message that comes to a messenger, from outside or back from its transport, is put in front of
the agenda; the step that finds it there takes it in.  Nothing else is ever on record as having come
in, so that the messages on record can be told from the turns of a run (`Messenger.arrivals_run`).

Main statement: what a messenger does about a message that it takes in, about the requests that the
message answers or does not answer, and about those that are given up, is
`Messenger.heeds_of_sound`.
-/

namespace WebviewBridge

open Json

/-- The message that has come in, if this is what happened. -/
def Event.arrival? : Event → Option IncomingMessage
  | arrived x => some x
  | _ => none

/-- The message that a task takes in, if this is what is to be done. -/
def Task.arrival? : Task → Option IncomingMessage
  | receive x => some x
  | _ => none

namespace Messenger

variable (m : Messenger)

/-- The messages that have come in, oldest first. -/
def arrivals : List IncomingMessage := m.history.filterMap Event.arrival?

/-- The message that the next step takes in. -/
def taking? : Option IncomingMessage := m.agenda.head?.bind Task.arrival?

/-- The message that a turn takes in. -/
def takenBy : Turn → Option IncomingMessage
  | .step => m.taking?
  | _ => none

/-- The messages that some turns take in, in their order. -/
def takenIn (m : Messenger) : List Turn → List IncomingMessage
  | [] => []
  | t :: ts => (m.takenBy t).toList ++ (m.turn t).takenIn ts

/-! ## What is on record as having come in -/

lemma arrivals_record (e : Event) : (m.record e).arrivals = m.arrivals ++ e.arrival?.toList := by
  cases h : e.arrival? <;> simp [arrivals, record, List.filterMap_append, h]

lemma arrivals_handOver (x : OutgoingMessage) : (m.handOver x).1.arrivals = m.arrivals := by
  rcases m.fst_handOver x with h | h <;> rw [h]
  rw [arrivals_record]
  exact List.append_nil _

lemma arrivals_post (t : String) (p : Option Value) : (m.post t p).1.arrivals = m.arrivals :=
  (m.compose t p).1.arrivals_handOver _

lemma arrivals_receive (x : IncomingMessage) :
    (m.receive x).1.arrivals = m.arrivals ++ [x] := by
  rw [receive]
  split
  · exact (arrivals_post _ _ _).trans (m.arrivals_record _)
  · rw [resolve]
    split <;> exact m.arrivals_record _

lemma arrivals_perform (a : Action) : (m.perform a).1.arrivals = m.arrivals := by
  cases a with
  | post t p => exact m.arrivals_post t p
  | frame text =>
    rw [perform]
    split <;> rfl
  | unregister label =>
    rw [perform]
    split <;> rfl
  | unregisterFrom label t =>
    rw [perform]
    split <;> rfl
  | _ => rfl

lemma arrivals_tell (l : Listener) (x : IncomingMessage) :
    (m.tell l x).1.arrivals = m.arrivals := by
  have htold : ∀ content, (m.record (.told l.label x content)).arrivals = m.arrivals :=
    fun content => (m.arrivals_record _).trans (List.append_nil _)
  rw [tell]
  split
  · exact htold none
  · split
    · exact htold _
    · rfl

lemma arrivals_carryOut (t : Task) :
    (m.carryOut t).1.arrivals = m.arrivals ++ t.arrival?.toList := by
  cases t with
  | receive x => exact m.arrivals_receive x
  | tell l x => exact (m.arrivals_tell l x).trans (List.append_nil _).symm
  | act label a => exact (m.arrivals_perform a).trans (List.append_nil _).symm
  | note label a r => exact m.arrivals_record _

lemma arrivals_step : m.step.arrivals = m.arrivals ++ m.taking?.toList := by
  rw [step, taking?]
  cases hagenda : m.agenda with
  | nil => exact (List.append_nil _).symm
  | cons t rest => exact arrivals_carryOut { m with agenda := rest } t

lemma arrivals_beginRequest (t : String) (p : Option Value) :
    (m.beginRequest t p).1.arrivals = m.arrivals := by
  have hmade : (m.withRequest t p).arrivals = m.arrivals :=
    (arrivals_record _ _).trans (List.append_nil _)
  have hover := ((m.withRequest t p).arrivals_handOver (m.compose t p).2).trans hmade
  rw [beginRequest_eq]
  rcases ((m.withRequest t p).handOver (m.compose t p).2).2.2 with e | ⟨⟩ <;> exact hover

/-- What comes in is what the steps take in. -/
theorem arrivals_turn (t : Turn) : (m.turn t).arrivals = m.arrivals ++ (m.takenBy t).toList := by
  cases t with
  | act a => exact (m.arrivals_perform a).trans (List.append_nil _).symm
  | step => exact m.arrivals_step
  | request t p => exact (m.arrivals_beginRequest t p).trans (List.append_nil _).symm
  | wait ms => exact (List.append_nil _).symm
  | resume id =>
    rw [turn, resume]
    split
    · exact arrivals_record _ _
    · exact (List.append_nil _).symm
  | abandon id =>
    rw [turn, abandon]
    split
    · exact arrivals_record _ _
    · exact (List.append_nil _).symm
  | reroute t => exact (List.append_nil _).symm

theorem arrivals_run (ts : List Turn) : (m.run ts).arrivals = m.arrivals ++ m.takenIn ts := by
  induction ts generalizing m with
  | nil => exact (List.append_nil _).symm
  | cons t ts ih => rw [run_cons, ih, arrivals_turn, takenIn, List.append_assoc]

/-! ## What is done about a message -/

variable {m} {x : IncomingMessage}

/-- A post says nothing about any request. -/
lemma sameFor_post (m : Messenger) (t : String) (p : Option Value) (id : MessageId) :
    Books.SameFor id m.books (m.post t p).1.books := by
  have hissued : Books.SameFor id m.books (m.compose t p).1.books :=
    ⟨rfl, rfl, rfl, rfl, rfl, fun h => h⟩
  have hpost : (m.post t p).1 = ((m.compose t p).1.handOver (m.compose t p).2).1 := rfl
  rw [hpost]
  rcases (m.compose t p).1.fst_handOver (m.compose t p).2 with h | h <;> rw [h]
  · exact hissued
  · exact hissued.trans (.record (Event.isNeutral_posted _ id))

/-- A message that is taken in either is the answer to a request in the table, which it takes out,
or, but for its arrival, changes nothing that is said of any request. -/
lemma books_receive (m : Messenger) (x : IncomingMessage) :
    (∃ w ∈ m.pending.entries, x.Answers w.id ∧
        (m.receive x).1.books = (m.books.record (.arrived x)).reply w.id x) ∨
      (∀ w ∈ m.pending.entries, ¬ x.Answers w.id) ∧
        ∀ id, Books.SameFor id (m.books.record (.arrived x)) (m.receive x).1.books := by
  rw [receive]
  by_cases hping : x.messageType = Kind.ping.messageType
  · have hpost := sameFor_post (m.record (.arrived x)) Kind.pong.messageType none
    rw [if_pos hping]
    exact Or.inr ⟨fun w _ hx => hx.1 hping, hpost⟩
  · have hrecord : (m.record (.arrived x)).pending = m.pending := rfl
    rw [if_neg hping, resolve, hrecord]
    split
    · rename_i w hanswered
      obtain ⟨hw, hid⟩ := Pending.answeredBy?_eq_some hanswered
      exact Or.inl ⟨w, hw, ⟨hping, hid⟩, rfl⟩
    · rename_i hnone
      refine Or.inr ⟨fun w hw hx => Pending.answeredBy?_eq_none hnone w hw hx.2, fun id => ?_⟩
      exact ⟨rfl, rfl, rfl, rfl, rfl, fun h => h⟩

lemma step_of_taking (h : m.taking? = some x) :
    ∃ m' : Messenger, m'.books = m.books ∧ m.step.books = (m'.receive x).1.books := by
  rw [taking?] at h
  cases hagenda : m.agenda with
  | nil =>
    rw [hagenda] at h
    cases h
  | cons t rest =>
    rw [hagenda] at h
    cases t with
    | receive y =>
      obtain rfl : y = x := Option.some.inj h
      refine ⟨{ m with agenda := rest }, rfl, ?_⟩
      rw [step, hagenda]
      rfl
    | _ => cases h

/-- What a messenger does, at a moment, about the messages that come in, about requests that are
given up, and about time. -/
structure Heeds (m : Messenger) : Prop where
  /-- A message that is passed to the messenger is what is to be done next, -/
  received : ∀ x, m.turn (.act (.receive x)) = m.schedule [.receive x]
  /-- and so is one whose text is passed to it. -/
  read : ∀ text x, IncomingMessage.parse text = .ok x →
    m.turn (.act (.frame text)) = m.schedule [.receive x]
  /-- What comes back while a message is handed over is to be taken in next, even if the message is
  refused in the end. -/
  posted : ∀ t p, (m.turn (.act (.post t p))).agenda =
    (m.transport.post (m.compose t p).2).answers.map .receive ++ m.agenda
  requested : ∀ t p, (m.turn (.request t p)).agenda =
    (m.transport.post (m.compose t p).2).answers.map .receive ++ m.agenda
  /-- What is put on record as having come in is what a step takes in, and nothing else. -/
  arrivals : ∀ t, (m.turn t).arrivals = m.arrivals ++ (m.takenBy t).toList
  /-- A message that answers a request of the table takes it out, and is what the request comes to,
  unless its own message could not be posted. -/
  answered : ∀ x id, m.taking? = some x → x.Answers id → id ∈ m.pending.ids →
    id ∉ m.step.pending.ids ∧
      (m.refusals.lookup id = none → (m.step.resume id).outcome? id = some (.ok x))
  /-- To all other requests nothing happens: to those of another identifier, and to the one that is
  answered when it is answered again, or too late. -/
  unaffected : ∀ x id, m.taking? = some x → (x.Answers id → id ∉ m.pending.ids) →
    (id ∈ m.step.pending.ids ↔ id ∈ m.pending.ids) ∧
      (m.step.resume id).outcome? id = (m.resume id).outcome? id
  /-- A request that is given up is in the table no longer, and comes to nothing more than it has
  come to already; no other request notices. -/
  abandons : ∀ id,
    id ∉ (m.turn (.abandon id)).pending.ids ∧
      ((m.turn (.abandon id)).resume id).outcome? id = m.outcome? id ∧
      ∀ j, j ≠ id → (j ∈ (m.turn (.abandon id)).pending.ids ↔ j ∈ m.pending.ids) ∧
        ((m.turn (.abandon id)).resume j).outcome? j = (m.resume j).outcome? j
  /-- That a request was given up is put on record when this is done, and at no other time. -/
  kept : ∀ t id, .abandoned id ∈ (m.turn t).history →
    .abandoned id ∈ m.history ∨ t = .abandon id
  /-- Time passes when it is let pass, and at no other time. -/
  passes : ∀ t, (m.turn t).now = m.now + t.span

/-- Whoever is answered is taken out of the table, and gets the answer. -/
lemma answered_of_taking (hm : m.books.Sound) (h : m.taking? = some x) {id : MessageId}
    (hx : x.Answers id) (hid : id ∈ m.pending.ids) :
    id ∉ m.step.pending.ids ∧
      (m.refusals.lookup id = none → (m.step.resume id).outcome? id = some (.ok x)) := by
  obtain ⟨m', hm', hstep⟩ := step_of_taking h
  have hpending : m'.pending = m.pending := congrArg Books.pending hm'
  rcases m'.books_receive x with ⟨w, hw, hxw, hbooks⟩ | ⟨hnone, -⟩
  · obtain rfl : w.id = id := hxw.id_unique hx
    rw [hbooks, hm'] at hstep
    have hpending' : m.step.pending = m.pending.forget w.id := congrArg Books.pending hstep
    constructor
    · rw [hpending', Pending.mem_ids_forget]
      exact fun h => h.2 rfl
    · intro hposted
      have hrefusals : m.step.refusals.lookup w.id = none :=
        (congrArg (List.lookup w.id) (congrArg Books.refusals hstep)).trans hposted
      have hreplies : m.step.replies.lookup w.id = some x :=
        (congrArg (List.lookup w.id) (congrArg Books.replies hstep)).trans List.lookup_cons_self
      have hopen : (m.books.fate w.id).IsOpen := hm.isOpen_iff.1 (Or.inl hid)
      have hnone : m.step.outcome? w.id = none := by
        rw [outcome?_eq_head?, hstep, Books.outcomes_reply, Books.outcomes_record,
          hm.outcomes_of_isOpen hopen]
        rfl
      rw [outcome?_resume, hnone, Option.none_or]
      simp only [news?, hrefusals, hreplies]
  · rw [hpending] at hnone
    obtain ⟨w, hw, rfl⟩ := Pending.mem_ids.1 hid
    exact absurd hx (hnone w hw)

/-- Whoever is not answered comes to what it would have come to. -/
lemma unaffected_of_taking (hm : m.books.Sound) (h : m.taking? = some x) {id : MessageId}
    (hid : x.Answers id → id ∉ m.pending.ids) :
    (id ∈ m.step.pending.ids ↔ id ∈ m.pending.ids) ∧
      (m.step.resume id).outcome? id = (m.resume id).outcome? id := by
  obtain ⟨m', hm', hstep⟩ := step_of_taking h
  have hpending : m'.pending = m.pending := congrArg Books.pending hm'
  have hsame : Books.SameFor id m.books m.step.books := by
    rcases m'.books_receive x with ⟨w, hw, hxw, hbooks⟩ | ⟨hnone, hsame⟩
    · rw [hbooks, hm'] at hstep
      have hne : id ≠ w.id := by
        rintro rfl
        rw [hpending] at hw
        exact hid hxw (Pending.mem_ids.2 ⟨w, hw, rfl⟩)
      have harrived : Books.SameFor id m.books (m.books.record (.arrived x)) :=
        .record fun hx : x.Answers id => hne (hx.id_unique hxw)
      rw [hstep]
      exact harrived.trans (.reply hne x)
    · rw [hpending] at hnone
      rw [hm'] at hsame
      rw [hstep]
      exact (hm.overhear hnone id).trans (hsame id)
  constructor
  · rw [← Pending.isSome_find?_iff, ← Pending.isSome_find?_iff]
    exact iff_of_eq (congrArg (fun w => w.isSome = true) hsame.pending)
  · exact outcome?_resume_congr hsame m.works_step.now_eq m.grows_step.timeoutMs_eq

/-- Whoever gives a request up hears nothing more of it, and others do not notice. -/
lemma abandons_of_sound (hm : m.books.Sound) (id : MessageId) :
    id ∉ (m.turn (.abandon id)).pending.ids ∧
      ((m.turn (.abandon id)).resume id).outcome? id = m.outcome? id ∧
      ∀ j, j ≠ id → (j ∈ (m.turn (.abandon id)).pending.ids ↔ j ∈ m.pending.ids) ∧
        ((m.turn (.abandon id)).resume j).outcome? j = (m.resume j).outcome? j := by
  rw [turn, abandon]
  split
  · have hsame : ∀ j, ((m.dismiss id).record (.abandoned id)).outcome? j = m.outcome? j :=
      fun j => (outcome?_record _ _ j).trans Option.or_none
    have hpending : ((m.dismiss id).record (.abandoned id)).pending = m.pending.forget id := rfl
    refine ⟨?_, ?_, fun j hj => ⟨?_, ?_⟩⟩
    · rw [hpending, Pending.mem_ids_forget]
      exact fun h => h.2 rfl
    · have hnone : ((m.dismiss id).record (.abandoned id)).news? id = none := m.news?_dismiss id
      rw [outcome?_resume, hsame, hnone, Option.or_none]
    · rw [hpending, Pending.mem_ids_forget]
      exact and_iff_left hj
    · have hnews : ((m.dismiss id).record (.abandoned id)).news? j = m.news? j :=
        m.news?_dismiss_of_ne hj
      rw [outcome?_resume, outcome?_resume, hsame, hnews]
  · rename_i hclosed
    have hnone : m.news? id = none := by
      refine Option.eq_none_iff_forall_not_mem.2 fun o ho => hclosed ?_
      exact (m.isOpen_iff id).2 (hm.isOpen_iff.2 (hm.isOpen_of_news? ho))
    refine ⟨fun h => hclosed ((m.isOpen_iff id).2 (Or.inl h)), ?_, fun j _ => ⟨Iff.rfl, rfl⟩⟩
    rw [outcome?_resume, hnone, Option.or_none]

/-- **What happens to a messenger is heeded.**  Where the books of a messenger are in order, every
message that comes to it is taken in, ends the wait of the request that it answers, if that waits,
and leaves all other requests as they are; a request that is given up comes to nothing; and time
passes as it is let pass. -/
theorem heeds_of_sound (hm : m.books.Sound) : m.Heeds where
  received x := rfl
  read text x hparse := by
    rw [turn, beginAct]
    simp only [perform, hparse]
  posted t p := by
    have hagenda : (m.turn (.act (.post t p))).agenda =
        (m.post t p).2.1 ++ (m.post t p).1.agenda := rfl
    rw [hagenda, tasks_post, agenda_post]
  requested t p := m.agenda_beginRequest t p
  arrivals t := m.arrivals_turn t
  answered x id h hx hid := answered_of_taking hm h hx hid
  unaffected x id h hid := unaffected_of_taking hm h hid
  abandons id := abandons_of_sound hm id
  kept t id h := m.mem_abandoned_turn h
  passes t := m.now_turn t

end Messenger

end WebviewBridge
