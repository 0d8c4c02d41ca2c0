import WebviewBridge.Proofs.Host.Effects
import WebviewBridge.Proofs.Host.Serving

/-!
# Reading a connection

A host takes the frames of a connection one after the other, until a handler has to wait, the
connection is closed, or the end is reached behind a peer that is gone.  What it takes is its
`Reading`s.  Main statement (`HostConnection.takes_handleAll`): whatever is taken, the pongs among
it are counted, nothing is taken after an end, and the rest waits in the order in which it arrived.
-/

namespace WebviewBridge

/-! ## What a handler leaves of its session -/

/-- Ordinary effects only add messages to the queue of the session, and none of them is a ping. -/
lemma Host.exists_perform_eq_enqueue {h : Host} {s : Session} {e : Effect} (he : e.IsOrdinary) :
    ∃ added, (h.perform s e).2.1 = s.enqueue added ∧
      ∀ x ∈ added, x.messageType ≠ Kind.ping.messageType := by
  cases e with
  | send m =>
    by_cases hs : s.isOpen = true
    · refine ⟨[m], ?_, fun x hx => ?_⟩
      · simp only [perform, Session.send_of_isOpen hs]
      · rw [List.mem_singleton.1 hx]
        exact he
    · refine ⟨[], ?_, List.forall_mem_nil _⟩
      simp only [perform, Session.send, if_neg hs, Session.enqueue_nil]
  | recordPong => exact he.elim
  | _ => exact ⟨[], Session.enqueue_nil.symm, List.forall_mem_nil _⟩

/-- A procedure of ordinary effects only adds messages to the queue of the session, none of them a
ping, and so does what is left of it when it waits. -/
lemma Procedure.All.proceed {α : Type} {p : Procedure α} (hp : p.All Effect.IsOrdinary) (h : Host)
    (s : Session) :
    (∃ added, (p.proceed h s).2.1 = s.enqueue added ∧
      ∀ x ∈ added, x.messageType ≠ Kind.ping.messageType) ∧
    ∀ ms rest, (p.proceed h s).2.2 = .paused ms rest → rest.All Effect.IsOrdinary := by
  induction p generalizing h s with
  | done a => exact ⟨⟨[], Session.enqueue_nil.symm, List.forall_mem_nil _⟩, by rintro ms rest ⟨⟩⟩
  | perform e next ih =>
    by_cases he : ∃ ms, e = .pause (ms + 1)
    · obtain ⟨ms, rfl⟩ := he
      refine ⟨⟨[], Session.enqueue_nil.symm, List.forall_mem_nil _⟩, fun ms' rest heq => ?_⟩
      obtain ⟨rfl, rfl⟩ := Progress.paused.inj heq
      exact hp.2 ()
    · obtain ⟨added, hsession, hadded⟩ := Host.exists_perform_eq_enqueue (h := h) (s := s) hp.1
      obtain ⟨⟨added', hsession', hadded'⟩, hrest⟩ :=
        ih (h.perform s e).2.2 (hp.2 _) (h.perform s e).1 (h.perform s e).2.1
      rw [proceed_perform he]
      refine ⟨⟨added ++ added', ?_, fun x hx => ?_⟩, hrest⟩
      · rw [hsession', hsession, Session.enqueue_enqueue]
      · exact (List.mem_append.1 hx).elim (hadded x) (hadded' x)

/-- A session once a frame was handled: some messages are queued, and some pongs counted. -/
def Session.after (s : Session) (added : List IncomingMessage) (pongs : ℕ) : Session :=
  { s.enqueue added with pongs := s.pongs + pongs }

/-! ## Frames and readings -/

/-- Whether a frame is the text of a pong. -/
def Frame.isPong : Frame → Bool
  | text content =>
    (OutgoingMessage.parse content).toOption.any (·.messageType = Kind.pong.messageType)
  | _ => false

lemma Frame.isPong_text_iff {content : String} :
    (text content).isPong = true ↔ Demand.ofText content = .pong := by
  cases hm : OutgoingMessage.parse content with
  | error r =>
    rw [Demand.ofText_of_error hm, isPong, hm]
    exact ⟨nofun, nofun⟩
  | ok m =>
    rw [Demand.ofText_of_ok hm, isPong, hm]
    constructor
    · intro htype
      exact OutgoingMessage.demand_of_pong (of_decide_eq_true htype)
    · intro hpong
      have hasks := m.asks_demand
      rw [hpong] at hasks
      exact decide_eq_true hasks

/-- What a host takes off a connection: a frame, or the end after the frames of a peer that is
gone. -/
inductive Reading where
  | frame (f : Frame)
  | gone

namespace Reading

/-- Whether the connection has ended with this. -/
def ends : Reading → Bool
  | frame .close | gone => true
  | frame _ => false

/-- Whether this counts as a pong. -/
def isPong : Reading → Bool
  | frame f => f.isPong
  | gone => false

/-- The frame, if it is one. -/
def frame? : Reading → Option Frame
  | frame f => some f
  | gone => none

/-- The frames among what was taken. -/
def frames (rs : List Reading) : List Frame := rs.filterMap frame?

lemma frames_append (rs rs' : List Reading) : frames (rs ++ rs') = frames rs ++ frames rs' :=
  List.filterMap_append

end Reading

/-- The handler of a text counts it if it is a pong, queues messages that are no pings, and what is
left of it when it waits will do no more than that. -/
lemma Creator.exists_proceed_handleFrame (c : Creator) (content : String) (h : Host)
    (s : Session) :
    ∃ added, ((c.handleFrame content).proceed h s).2.1 =
        s.after added ([Reading.frame (.text content)].countP (·.isPong)) ∧
      (∀ x ∈ added, x.messageType ≠ Kind.ping.messageType) ∧
      ∀ ms rest, ((c.handleFrame content).proceed h s).2.2 = .paused ms rest →
        rest.All Effect.IsOrdinary := by
  rw [List.countP_singleton]
  by_cases hpong : (Frame.text content).isPong = true
  · refine ⟨[], ?_, nofun, ?_⟩ <;>
      rw [handleFrame_of_pong c (Frame.isPong_text_iff.1 hpong)]
    · rw [Session.after, Session.enqueue_nil, Reading.isPong, if_pos hpong]
      rfl
    · exact nofun
  · have hall := c.all_handleFrame fun h => hpong (Frame.isPong_text_iff.2 h)
    obtain ⟨⟨added, hsession, hadded⟩, hrest⟩ := hall.proceed h s
    refine ⟨added, ?_, hadded, hrest⟩
    rw [hsession, Reading.isPong, if_neg hpong]
    rfl

/-! ## One connection -/

namespace HostConnection

/-- What is taken while frames are handled until there are no more, one has to wait, or the
connection ends. -/
def readAll (c : Creator) (now : ℕ) : List Frame → Host → HostConnection → List Reading
  | [], _, k => if k.lost then [.gone] else []
  | .close :: _, _, _ => [.frame .close]
  | .other :: rest, h, k => .frame .other :: readAll c now rest h k
  | .text content :: rest, h, k =>
    .frame (.text content) ::
      match (c.handleFrame content).proceed h k.session with
      | (h, session, .finished ()) => readAll c now rest h { k with session }.write
      | (_, _, .paused _ _) => []

/-- What is taken of what has arrived, unless a handler waits. -/
def readServing (c : Creator) (now : ℕ) (h : Host) (k : HostConnection) : List Reading :=
  if k.waiter.isSome then [] else readAll c now k.inbox h k

/-- What is taken once the handler that waits is through. -/
def readResuming (c : Creator) (now : ℕ) (h : Host) (k : HostConnection) : List Reading :=
  match k.waiter with
  | none => []
  | some w =>
    match w.rest.proceed h k.session with
    | (h, session, .finished ()) =>
      readAll c now k.inbox h { k with session, waiter := none }.write
    | (_, _, .paused _ _) => []

/-- A connection between two turns: nothing is queued that is not written, nothing is left to read
unless a handler waits, and a handler that waits was not about a pong. -/
structure IsSettled (k : HostConnection) : Prop where
  ended : k.ended = false
  queue : k.session.queue = []
  idle : k.waiter = none → k.inbox = [] ∧ k.lost = false
  waits : ∀ w, k.waiter = some w → w.rest.All Effect.IsOrdinary

/-- What becomes of a connection with some frames to read when some readings are taken. -/
structure Takes (k : HostConnection) (frames : List Frame) (rs : List Reading)
    (k' : HostConnection) : Prop where
  id_eq : k'.id = k.id
  lost_eq : k'.lost = k.lost
  isOpen_eq : k.lost = false → k'.session.isOpen = k.session.isOpen
  /-- The connection has ended if an end was taken. -/
  ended_eq : k'.ended = rs.any (·.ends)
  /-- Nothing is taken after an end. -/
  last : rs.Pairwise fun r _ => r.ends = false
  /-- What is left waits in the order in which it arrived. -/
  rest : ∃ rest, Reading.frames rs ++ rest = frames ∧ (k'.ended = false → k'.inbox = rest)
  /-- The pongs are counted. -/
  pongs_eq : k'.session.pongs = k.session.pongs + rs.countP (·.isPong)
  /-- What is written to a peer that is there contains no ping. -/
  written : ∃ added : List IncomingMessage, (∀ x ∈ added, x.messageType ≠ Kind.ping.messageType) ∧
    (k.lost = false → k'.outbox = k.outbox ++ k.session.queue ++ added.map (·.wire))
  isSettled : k'.ended = false → k'.IsSettled

section

variable {k k' : HostConnection} {c : Creator} {now : ℕ} {h : Host} {frames : List Frame}
  {rs : List Reading}

/-! ### Writing -/

lemma queue_write : k.write.session.queue = [] := by
  rw [write]
  split_ifs with hlost hempty
  · exact List.isEmpty_iff.1 hempty
  · rfl
  · rfl

@[simp] lemma id_write : k.write.id = k.id := by
  rw [write]
  split_ifs <;> rfl

@[simp] lemma lost_write : k.write.lost = k.lost := by
  rw [write]
  split_ifs <;> rfl

@[simp] lemma ended_write : k.write.ended = k.ended := by
  rw [write]
  split_ifs <;> rfl

@[simp] lemma inbox_write : k.write.inbox = k.inbox := by
  rw [write]
  split_ifs <;> rfl

@[simp] lemma waiter_write : k.write.waiter = k.waiter := by
  rw [write]
  split_ifs <;> rfl

@[simp] lemma pongs_write : k.write.session.pongs = k.session.pongs := by
  rw [write]
  split_ifs <;> rfl

lemma isOpen_write (hlost : k.lost = false) : k.write.session.isOpen = k.session.isOpen := by
  rw [write_of_not_lost hlost]

lemma outbox_write (hlost : k.lost = false) : k.write.outbox = k.outbox ++ k.session.queue := by
  rw [write_of_not_lost hlost]

/-! ### Handling what has arrived -/

/-- A connection on which nothing is taken. -/
lemma IsSettled.takes_nil (hk : k.IsSettled) : k.Takes k.inbox [] k where
  id_eq := rfl
  lost_eq := rfl
  isOpen_eq _ := rfl
  ended_eq := hk.ended
  last := .nil
  rest := ⟨k.inbox, rfl, fun _ => rfl⟩
  pongs_eq := rfl
  written := ⟨[], List.forall_mem_nil _, fun _ => by
    rw [hk.queue, List.append_nil, List.map_nil, List.append_nil]⟩
  isSettled _ := hk

/-- A frame that does nothing, in front of others. -/
lemma Takes.other (ht : k.Takes frames rs k') :
    k.Takes (.other :: frames) (.frame .other :: rs) k' where
  id_eq := ht.id_eq
  lost_eq := ht.lost_eq
  isOpen_eq := ht.isOpen_eq
  ended_eq := ht.ended_eq
  last := ht.last.cons fun _ _ => rfl
  rest := by
    obtain ⟨rest, hrest, hinbox⟩ := ht.rest
    exact ⟨rest, congrArg (Frame.other :: ·) hrest, hinbox⟩
  pongs_eq := by
    rw [List.countP_cons_of_neg (by exact nofun)]
    exact ht.pongs_eq
  written := ht.written
  isSettled := ht.isSettled

/-- A connection after something was taken and handled: some messages were queued, the pongs were
counted, and everything was written. -/
def handled (k : HostConnection) (taken : List Reading) (added : List IncomingMessage)
    (inbox : List Frame) (waiter : Option Waiter) : HostConnection :=
  { k with session := k.session.after added (taken.countP Reading.isPong), inbox, waiter }.write

section

variable {taken : List Reading} {added : List IncomingMessage} {inbox : List Frame}
  {waiter : Option Waiter}

@[simp] lemma id_handled : (k.handled taken added inbox waiter).id = k.id := id_write

@[simp] lemma lost_handled : (k.handled taken added inbox waiter).lost = k.lost := lost_write

@[simp] lemma ended_handled : (k.handled taken added inbox waiter).ended = k.ended := ended_write

@[simp] lemma inbox_handled : (k.handled taken added inbox waiter).inbox = inbox := inbox_write

@[simp] lemma waiter_handled : (k.handled taken added inbox waiter).waiter = waiter :=
  waiter_write

lemma queue_handled : (k.handled taken added inbox waiter).session.queue = [] := queue_write

lemma outbox_handled (hqueue : k.session.queue = []) (hlost : k.lost = false) :
    (k.handled taken added inbox waiter).outbox = k.outbox ++ added.map (·.wire) := by
  rw [handled, outbox_write (by exact hlost)]
  simp only [Session.after, Session.enqueue, hqueue, List.nil_append]

/-- What was handled comes before what is taken afterwards. -/
lemma Takes.afterwards (hqueue : k.session.queue = []) (htaken : ∀ r ∈ taken, r.ends = false)
    (hadded : ∀ x ∈ added, x.messageType ≠ Kind.ping.messageType)
    (ht : (k.handled taken added inbox waiter).Takes frames rs k') :
    k.Takes (Reading.frames taken ++ frames) (taken ++ rs) k' := by
  constructor
  case id_eq => exact ht.id_eq.trans id_handled
  case lost_eq => exact ht.lost_eq.trans lost_handled
  case isOpen_eq =>
    intro hk
    exact (ht.isOpen_eq (lost_handled.trans hk)).trans (isOpen_write hk)
  case ended_eq =>
    have hnone : taken.any (·.ends) = false := List.any_eq_false.2 fun r hr => by
      rw [htaken r hr]
      exact Bool.false_ne_true
    rw [List.any_append, hnone, Bool.false_or]
    exact ht.ended_eq
  case last =>
    refine List.pairwise_append.2 ⟨?_, ht.last, fun r hr _ _ => htaken r hr⟩
    exact List.Pairwise.imp_of_mem (fun hr _ _ => htaken _ hr)
      (List.pairwise_of_forall (R := fun _ _ => True) fun _ _ => trivial)
  case rest =>
    obtain ⟨rest, hrest, hinbox⟩ := ht.rest
    refine ⟨rest, ?_, hinbox⟩
    rw [Reading.frames_append, List.append_assoc, hrest]
  case pongs_eq =>
    rw [ht.pongs_eq, handled, pongs_write, List.countP_append, ← Nat.add_assoc]
    rfl
  case written =>
    obtain ⟨added', hadded', houtbox⟩ := ht.written
    refine ⟨added ++ added', fun x hx => ?_, fun hk => ?_⟩
    · exact (List.mem_append.1 hx).elim (hadded x) (hadded' x)
    · rw [houtbox (lost_handled.trans hk), outbox_handled hqueue hk, queue_handled,
        List.map_append, hqueue, List.append_nil, List.append_nil, List.append_assoc]
  case isSettled => exact ht.isSettled

/-- What was handled before a handler waits, while the rest waits with it. -/
lemma takes_handled {w : Waiter} (hqueue : k.session.queue = []) (hended : k.ended = false)
    (htaken : ∀ r ∈ taken, r.ends = false)
    (hadded : ∀ x ∈ added, x.messageType ≠ Kind.ping.messageType)
    (hw : w.rest.All Effect.IsOrdinary) :
    k.Takes (Reading.frames taken ++ inbox) taken (k.handled taken added inbox (some w)) := by
  have hsettled : (k.handled taken added inbox (some w)).IsSettled := by
    constructor
    case ended => exact ended_handled.trans hended
    case queue => exact queue_handled
    case idle =>
      intro hnone
      rw [waiter_handled] at hnone
      cases hnone
    case waits =>
      intro w' hw'
      rw [waiter_handled] at hw'
      obtain rfl := Option.some.inj hw'
      exact hw
  have hnil := hsettled.takes_nil
  rw [inbox_handled] at hnil
  have hall := hnil.afterwards hqueue htaken hadded
  rwa [List.append_nil] at hall

end

/-- Whatever there is to read on a connection on which nothing is being handled, this becomes of it
when as much as possible is handled. -/
theorem takes_handleAll (c : Creator) (now : ℕ) (frames : List Frame) (h : Host)
    (hqueue : k.session.queue = []) (hwaiter : k.waiter = none) (hended : k.ended = false) :
    k.Takes frames (readAll c now frames h k) (handleAll c now frames h k).2 := by
  induction frames generalizing h k with
  | nil =>
    rw [handleAll, readAll]
    constructor
    case id_eq => rfl
    case lost_eq => rfl
    case isOpen_eq => exact fun _ => rfl
    case ended_eq => cases k.lost <;> rfl
    case last => split <;> simp
    case rest => exact ⟨[], by split <;> rfl, fun _ => rfl⟩
    case pongs_eq => split <;> rfl
    case written => exact ⟨[], List.forall_mem_nil _, fun _ => by simp [hqueue]⟩
    case isSettled =>
      intro hlost
      exact ⟨hlost, hqueue, fun _ => ⟨rfl, hlost⟩, fun w hw => by rw [hwaiter] at hw; cases hw⟩
  | cons f frames ih =>
    cases f with
    | other => exact (ih h hqueue hwaiter hended).other
    | close =>
      rw [handleAll, readAll]
      exact ⟨rfl, rfl, fun _ => rfl, rfl, List.pairwise_singleton _ _, ⟨frames, rfl, by rintro ⟨⟩⟩,
        rfl, ⟨[], List.forall_mem_nil _, fun _ => by simp [hqueue]⟩, by rintro ⟨⟩⟩
    | text content =>
      have htaken : ∀ r ∈ [Reading.frame (.text content)], r.ends = false := by
        intro r hr
        rw [List.mem_singleton.1 hr]
        rfl
      obtain ⟨added, hsession, hadded, hrest⟩ :=
        c.exists_proceed_handleFrame content h k.session
      rw [handleAll, readAll]
      rcases hp : (c.handleFrame content).proceed h k.session with ⟨h', s', ⟨⟩ | ⟨ms, more⟩⟩ <;>
        rw [hp] at hsession hrest <;> obtain rfl : s' = _ := hsession
      · -- the handler is through, and the next frame is handled
        have hnext := ih h' (k := k.handled [.frame (.text content)] added k.inbox k.waiter)
          queue_handled (waiter_handled.trans hwaiter) (ended_handled.trans hended)
        exact hnext.afterwards hqueue htaken hadded
      · have hw : (Waiter.mk (now + ms) more).rest.All Effect.IsOrdinary := hrest ms more rfl
        exact takes_handled hqueue hended htaken hadded hw

/-- What becomes of a connection when frames arrive, or its peer goes away after some last ones. -/
theorem IsSettled.takes_serve (hk : k.IsSettled) (c : Creator) (now : ℕ) (h : Host)
    (arrived : List Frame) (lost : Bool) :
    { k with inbox := k.inbox ++ arrived, lost }.Takes (k.inbox ++ arrived)
      (readServing c now h { k with inbox := k.inbox ++ arrived, lost })
      (serve c now h { k with inbox := k.inbox ++ arrived, lost }).2 := by
  rw [readServing, serve]
  split
  · -- a handler waits, and what has arrived waits with it
    rename_i hw
    have hsettled : { k with inbox := k.inbox ++ arrived, lost }.IsSettled := by
      refine ⟨hk.ended, hk.queue, fun hnone => ?_, hk.waits⟩
      rw [hnone] at hw
      cases hw
    exact hsettled.takes_nil
  · rename_i hw
    exact takes_handleAll c now _ h hk.queue (by simpa using hw) hk.ended

/-- What becomes of a connection whose handler goes on. -/
theorem IsSettled.takes_resume (hk : k.IsSettled) (c : Creator) (now : ℕ) (h : Host) :
    k.Takes k.inbox (readResuming c now h k) (k.resume c now h).2 := by
  rw [readResuming, resume]
  cases hw : k.waiter with
  | none => exact hk.takes_nil
  | some w =>
    have hnone : ∀ r ∈ ([] : List Reading), r.ends = false := List.forall_mem_nil _
    obtain ⟨⟨added, hsession, hadded⟩, hrest⟩ := (hk.waits w hw).proceed h k.session
    rcases hp : w.rest.proceed h k.session with ⟨h', s', ⟨⟩ | ⟨ms, more⟩⟩ <;>
      rw [hp] at hsession hrest <;> obtain rfl : s' = _ := hsession <;> simp only [hp]
    · have hnext := takes_handleAll (k := k.handled [] added k.inbox none) c now k.inbox h'
        queue_handled waiter_handled (ended_handled.trans hk.ended)
      exact hnext.afterwards hk.queue hnone hadded
    · have hw : (Waiter.mk (now + ms) more).rest.All Effect.IsOrdinary := hrest ms more rfl
      exact takes_handled hk.queue hk.ended hnone hadded hw

end

end HostConnection

end WebviewBridge
