import Mathlib.Logic.Function.Iterate
import WebviewBridge.Host.Server
import WebviewBridge.Proofs.Host.Replies

/-!
# Serving a frame

A running host that takes in a frame handles it up to the first pause, and goes on whenever the
pause is over.  Once the handler is done, what has happened is what running it at once would have
done (`BridgeHost.exists_iterate_resume`), so the table of replies holds of the running host: the
session of the frame gets what the table says, and no other session gets anything
(`BridgeHost.receive_responds`).
-/

namespace WebviewBridge

/-! ## Handlers and the queue -/

section Queue

variable {h : Host} {s : Session}

/-- A session with frames that have to go out before those of its queue. -/
def Session.prepend (s : Session) (frames : List String) : Session :=
  { s with queue := frames ++ s.queue }

/-- No effect looks at the queue. -/
lemma Host.perform_prepend (frames : List String) (e : Effect) :
    h.perform (s.prepend frames) e =
      ((h.perform s e).1, (h.perform s e).2.1.prepend frames, (h.perform s e).2.2) := by
  cases e with
  | send m =>
    by_cases hs : s.isOpen
    · simp [perform, Session.send, Session.prepend, hs]
    · simp [perform, Session.send, Session.prepend, hs]
  | _ => rfl

lemma Procedure.run_prepend {α : Type} (p : Procedure α) (frames : List String) :
    p.run h (s.prepend frames) =
      ((p.run h s).1, (p.run h s).2.1.prepend frames, (p.run h s).2.2) := by
  induction p generalizing h s with
  | done a => rfl
  | perform e next ih => rw [run_perform, run_perform, Host.perform_prepend, ih]

/-- No effect changes who a session is. -/
lemma Host.perform_id (e : Effect) : (h.perform s e).2.1.id = s.id := by
  cases e with
  | send m => exact s.send_id m
  | _ => rfl

/-- A procedure goes on after any effect but a pause. -/
lemma Procedure.proceed_perform {α : Type} {e : Effect} (he : ¬∃ ms, e = .pause (ms + 1))
    (next : e.Answer → Procedure α) :
    (perform e next).proceed h s =
      (next (h.perform s e).2.2).proceed (h.perform s e).1 (h.perform s e).2.1 := by
  cases e with
  | pause ms =>
    cases ms with
    | zero => rfl
    | succ ms => exact absurd ⟨ms, rfl⟩ he
  | _ => rfl

lemma Procedure.proceed_id {α : Type} (p : Procedure α) : (p.proceed h s).2.1.id = s.id := by
  induction p generalizing h s with
  | done a => rfl
  | perform e next ih =>
    by_cases he : ∃ ms, e = .pause (ms + 1)
    · obtain ⟨ms, rfl⟩ := he
      rfl
    · rw [proceed_perform he, ih, Host.perform_id]

end Queue

/-! ## Connections -/

namespace HostConnection

variable {k : HostConnection} {c : Creator} {now : Nat} {h : Host}

/-- An open connection on which nothing is being handled, with a peer that is there: without one,
a connection on which nothing is being handled has ended. -/
structure IsReady (k : HostConnection) : Prop where
  isOpen : k.session.isOpen = true
  waiter : k.waiter = none
  inbox : k.inbox = []
  lost : k.lost = false

/-- Begins to handle, or goes on with, what is left to do. -/
def begin (k : HostConnection) (c : Creator) (now : Nat) (p : Procedure Unit) (h : Host) :
    Host × HostConnection :=
  match p.proceed h k.session with
  | (h, session, .finished ()) => handleAll c now k.inbox h { k with session, waiter := none }.write
  | (h, session, .paused ms more) =>
    (h, { k with session, waiter := some ⟨now + ms, more⟩ }.write)

/-- A connection that is done with a frame, after which its session is the given one. -/
def settled (k : HostConnection) (s : Session) : HostConnection :=
  { k with
      session := { s with queue := [] }, outbox := k.outbox ++ s.queue, waiter := none
      ended := false }

/-- A connection whose handler waits, and which has written what was sent. -/
def waiting (k : HostConnection) (w : Waiter) : HostConnection :=
  { k with
      session := { k.session with queue := [] }, outbox := k.outbox ++ k.session.queue
      waiter := some w }

/-- What was written before a wait comes before what is sent after it. -/
lemma settled_waiting (w : Waiter) (s : Session) :
    (k.waiting w).settled s = k.settled (s.prepend k.session.queue) := by
  simp only [settled, waiting, Session.prepend, List.append_assoc]

lemma write_of_not_lost (hlost : k.lost = false) :
    k.write =
      { k with
          outbox := k.outbox ++ k.session.queue, session := { k.session with queue := [] } } := by
  rw [write, hlost]
  rfl

lemma resume_of_waiter {w : Waiter} (hw : k.waiter = some w) :
    k.resume c now h = k.begin c now w.rest h := by
  rw [resume, hw]
  rfl

/-- A connection that is ready begins to handle a frame that comes in. -/
lemma serve_of_isReady (hk : k.IsReady) (c : Creator) (now : Nat) (h : Host) (text : String) :
    serve c now h { k with inbox := k.inbox ++ [Frame.text text] } =
      k.begin c now (c.handleFrame text) h := by
  have hwaiter : ¬(k.waiter.isSome = true) := by rw [hk.waiter]; exact nofun
  rw [serve, if_neg hwaiter, hk.inbox, List.nil_append, handleAll, begin]
  rcases (c.handleFrame text).proceed h k.session with ⟨h', s', ⟨⟩ | ⟨ms, more⟩⟩
  · simp only [handleAll, write_of_not_lost, hk.inbox, hk.lost, hk.waiter]
  · simp only [write_of_not_lost, hk.inbox, hk.lost]

/-- What has begun either is done, or waits. -/
lemma begin_of_done (hlost : k.lost = false) (hinbox : k.inbox = []) :
    k.begin c now (.done ()) h = (h, k.settled k.session) := by
  change handleAll c now k.inbox h { k with waiter := none }.write = _
  simp only [handleAll, write_of_not_lost, settled, hlost, hinbox]

lemma begin_of_pause (hlost : k.lost = false) (ms : Nat)
    (next : (Effect.pause (ms + 1)).Answer → Procedure Unit) :
    k.begin c now (.perform (.pause (ms + 1)) next) h =
      (h, k.waiting ⟨now + (ms + 1), next ()⟩) := by
  change (h, write { k with waiter := some ⟨now + (ms + 1), next ()⟩ }) = _
  simp only [write_of_not_lost, hlost, waiting]

lemma begin_of_perform {e : Effect} (he : ¬∃ ms, e = .pause (ms + 1))
    (next : e.Answer → Procedure Unit) :
    k.begin c now (.perform e next) h =
      { k with session := (h.perform k.session e).2.1 }.begin c now
        (next (h.perform k.session e).2.2) (h.perform k.session e).1 := by
  rw [begin, Procedure.proceed_perform he, begin]

/-- However far a handler comes, the connection is that of its session, and goes on. -/
lemma begin_keeps (hlost : k.lost = false) (hinbox : k.inbox = []) (hended : k.ended = false)
    (c : Creator) (now : Nat) (p : Procedure Unit) (h : Host) :
    (k.begin c now p h).2.id = k.id ∧ (k.begin c now p h).2.ended = false := by
  have hsession : (p.proceed h k.session).2.1.id = k.session.id := p.proceed_id
  rw [begin]
  rcases hp : p.proceed h k.session with ⟨h', s', ⟨⟩ | ⟨ms, more⟩⟩ <;> rw [hp] at hsession
  · simp only [handleAll, write_of_not_lost, hlost, hinbox, id]
    exact ⟨hsession, trivial⟩
  · simp only [write_of_not_lost, hlost, hended, id]
    exact ⟨hsession, trivial⟩

end HostConnection

/-! ## Tables of connections -/

namespace BridgeHost

variable {b : BridgeHost} {A : SessionId} {k : HostConnection} {h : Host}

/-- No connection in the table has ended. -/
def IsLive (b : BridgeHost) : Prop := ∀ x ∈ b.connections, x.ended = false

/-- A host with a connection in the place of that of a session. -/
def withSession (b : BridgeHost) (A : SessionId) (x : Host × HostConnection) : BridgeHost :=
  { b with
      host := x.1, connections := b.connections.map fun k => if k.id = A then x.2 else k }

lemma put_eq (hb : b.IsLive) (hk : k.ended = false) :
    b.put k =
      { b with connections := b.connections.map fun x => if x.id = k.id then k else x } := by
  rw [put, List.filter_eq_self.2]
  intro x hx
  obtain ⟨y, hy, rfl⟩ := List.mem_map.1 hx
  split
  · rw [hk]
    rfl
  · rw [hb y hy]
    rfl

/-- What is done with a connection changes nothing in the table but that connection. -/
lemma withConnection_eq (hb : b.IsLive) (hA : b.connection? A = some k)
    {f : Host → HostConnection → Host × HostConnection} (hid : (f b.host k).2.id = A)
    (hended : (f b.host k).2.ended = false) :
    b.withConnection A f = b.withSession A (f b.host k) := by
  rw [withConnection, hA]
  have hlive : { b with host := (f b.host k).1 }.IsLive := hb
  change put { b with host := (f b.host k).1 } (f b.host k).2 = _
  rw [put_eq hlive hended, hid, withSession]

lemma withSession_isLive (hb : b.IsLive) (hk : k.ended = false) :
    (b.withSession A (h, k)).IsLive := by
  intro x hx
  obtain ⟨y, hy, rfl⟩ := List.mem_map.1 hx
  split
  · exact hk
  · exact hb y hy

lemma withSession_withSession (hid : k.id = A) (x : Host × HostConnection) :
    (b.withSession A (h, k)).withSession A x = b.withSession A x := by
  simp only [withSession, List.map_map]
  congr 1
  refine List.map_congr_left fun y _ => ?_
  by_cases hy : y.id = A <;> simp [hy, hid]

lemma connection?_withSession (hA : (b.connection? A).isSome) (hid : k.id = A) :
    (b.withSession A (h, k)).connection? A = some k := by
  obtain ⟨y, hy⟩ := Option.isSome_iff_exists.1 hA
  rw [connection?] at hy
  have hsame : (decide <| HostConnection.id · = A) ∘ (fun x => if x.id = A then k else x) =
      (decide <| HostConnection.id · = A) := by
    funext x
    by_cases hx : x.id = A <;> simp [hx, hid]
  have hfound : y.id = A := by simpa using List.find?_some hy
  rw [connection?, withSession, List.find?_map, hsame, hy, Option.map_some, if_pos hfound]

/-! ## Going on until the end -/

/-- Goes on with the handler of a session that waits. -/
def resume (b : BridgeHost) (A : SessionId) : BridgeHost := b.fire (.resume A)

lemma resume_withSession (hb : b.IsLive) (hA : (b.connection? A).isSome) {w : Waiter}
    (hid : k.id = A) (hw : k.waiter = some w) (hlost : k.lost = false) (hinbox : k.inbox = [])
    (hended : k.ended = false) :
    (b.withSession A (h, k)).resume A =
      b.withSession A (k.begin b.creator b.elapsed w.rest h) := by
  have hresume : k.resume b.creator b.elapsed h = k.begin b.creator b.elapsed w.rest h :=
    HostConnection.resume_of_waiter hw
  obtain ⟨hid', hended'⟩ :=
    HostConnection.begin_keeps hlost hinbox hended b.creator b.elapsed w.rest h
  rw [← hresume] at hid' hended' ⊢
  exact (withConnection_eq (withSession_isLive hb hended) (connection?_withSession hA hid)
    (hid'.trans hid) hended').trans (withSession_withSession hid _)

/-- A handler that goes on often enough does what it would do if it never waited. -/
lemma exists_iterate_resume (hb : b.IsLive) (hA : (b.connection? A).isSome)
    (p : Procedure Unit) (hid : k.id = A) (hlost : k.lost = false) (hinbox : k.inbox = [])
    (hended : k.ended = false) :
    ∃ n, (resume · A)^[n] (b.withSession A (k.begin b.creator b.elapsed p h)) =
      b.withSession A ((p.run h k.session).1, k.settled (p.run h k.session).2.1) := by
  induction p generalizing h k with
  | done a =>
    refine ⟨0, ?_⟩
    rw [Function.iterate_zero_apply, HostConnection.begin_of_done hlost hinbox]
    rfl
  | perform e next ih =>
    by_cases he : ∃ ms, e = .pause (ms + 1)
    · -- the handler waits: what it has sent is written, and then it goes on
      obtain ⟨ms, rfl⟩ := he
      obtain ⟨n, hn⟩ := ih () (h := h) (k := k.waiting ⟨b.elapsed + (ms + 1), next ()⟩)
        hid hlost hinbox hended
      refine ⟨n + 1, ?_⟩
      -- what was queued before the pause is no business of the rest
      have hqueue : k.session =
          Session.prepend { k.session with queue := [] } k.session.queue := by
        rw [Session.prepend, List.append_nil]
      have hrest := Procedure.run_prepend (h := h) (s := { k.session with queue := [] }) (next ())
        k.session.queue
      rw [← hqueue] at hrest
      rw [HostConnection.begin_of_pause hlost, Function.iterate_succ_apply,
        resume_withSession (k := k.waiting ⟨b.elapsed + (ms + 1), next ()⟩)
          hb hA hid rfl hlost hinbox hended]
      refine hn.trans ?_
      change _ = b.withSession A
        (((next ()).run h k.session).1, k.settled ((next ()).run h k.session).2.1)
      rw [hrest, HostConnection.settled_waiting]
      rfl
    · -- the handler does not wait, and goes on with the next effect
      rw [HostConnection.begin_of_perform he, Procedure.run_perform]
      have hid' : { k with session := (h.perform k.session e).2.1 }.id = A :=
        (Host.perform_id e).trans hid
      obtain ⟨n, hn⟩ := ih (h.perform k.session e).2.2 (h := (h.perform k.session e).1)
        (k := { k with session := (h.perform k.session e).2.1 }) hid' hlost hinbox hended
      exact ⟨n, hn⟩

end BridgeHost

/-! ## The replies of a running host -/

/-- A connection with more messages written to its peer and more pongs counted. -/
def HostConnection.gain (k : HostConnection) (added : List IncomingMessage) (pongs : Nat) :
    HostConnection :=
  { k with
      session := { k.session with queue := [], pongs := k.session.pongs + pongs }
      outbox := k.outbox ++ k.session.queue ++ added.map (·.wire) }

lemma HostConnection.settled_eq_gain {k : HostConnection} (hk : k.IsReady)
    (hended : k.ended = false) (added : List IncomingMessage) (pongs : Nat) :
    k.settled { k.session.enqueue added with pongs := k.session.pongs + pongs } =
      k.gain added pongs := by
  simp only [settled, gain, Session.enqueue, hk.waiter, hended, List.append_assoc]

namespace BridgeHost

/-- **A frame gets the replies that the table says, and only its own session gets them.**  This is
what a running host has done about a frame once its handler is through with all its pauses.  The
frame may be any text, the host in any state, and the generator any script. -/
theorem receive_responds (b : BridgeHost) (hb : b.IsLive) {A : SessionId} {k : HostConnection}
    (hA : b.connection? A = some k) (hk : k.IsReady) (text : String) :
    ∃ n host added pongs,
      (resume · A)^[n] (b.receive A [.text text]) =
        { b with
            host
            connections := b.connections.map fun x =>
              if x.id = A then k.gain added pongs else x } ∧
      b.creator.RespondsTo b.host text host added pongs ∧
      ∀ m, OutgoingMessage.parse text = .ok m → ∀ x ∈ added, x.id = some m.id := by
  have hmem : k ∈ b.connections := List.mem_of_find?_eq_some hA
  have hid : k.id = A := by simpa using List.find?_some hA
  have hserve := HostConnection.serve_of_isReady hk b.creator b.elapsed b.host text
  obtain ⟨hid', hended'⟩ := HostConnection.begin_keeps hk.lost hk.inbox (hb k hmem) b.creator
    b.elapsed (b.creator.handleFrame text) b.host
  rw [← hserve] at hid' hended'
  obtain ⟨host, added, pongs, hresponds, hrun⟩ :=
    b.creator.exists_respondsTo b.host hk.isOpen text
  obtain ⟨n, hn⟩ := exists_iterate_resume (h := b.host) hb (Option.isSome_of_eq_some hA)
    (b.creator.handleFrame text) hid hk.lost hk.inbox (hb k hmem)
  refine ⟨n, host, added, pongs, ?_, hresponds, ?_⟩
  · have hreceive : b.receive A [.text text] =
        b.withSession A (k.begin b.creator b.elapsed (b.creator.handleFrame text) b.host) := by
      rw [← hserve]
      exact withConnection_eq hb hA (hid'.trans hid) hended'
    rw [hreceive, hn, hrun, HostConnection.settled_eq_gain hk (hb k hmem)]
    rfl
  · intro m hm x hx
    rw [Creator.RespondsTo, hm] at hresponds
    exact hresponds.id_eq hx

/-- A host with two sessions and no generator of plans. -/
def ofTwo : BridgeHost where
  port := 0
  token := ""
  heartbeatMs := none
  creator := { planner := .unconfigured, cache := ⟨"/"⟩, maxAgeMs := 0, home := none }
  freshSessions := fun _ => ⟨"c"⟩
  host := {}
  connections := [{ session := { id := ⟨"a"⟩ } }, { session := { id := ⟨"b"⟩ } }]

/-- The second of two sessions gets the error about its frame, the first gets nothing. -/
theorem receive_responds_second :
    ∃ n added pongs,
      (resume · ⟨"b"⟩)^[n] (ofTwo.receive ⟨"b"⟩ [.text "?"]) =
        { ofTwo with
            connections := [{ session := { id := ⟨"a"⟩ } },
              HostConnection.gain { session := { id := ⟨"b"⟩ } } added pongs] } ∧
      added.length = 1 ∧ pongs = 0 := by
  have hlive : ofTwo.IsLive := by
    intro x hx
    rcases List.mem_cons.1 hx with rfl | hx
    · rfl
    · obtain rfl := List.mem_singleton.1 hx
      rfl
  obtain ⟨n, host, added, pongs, hrun, hresponds, -⟩ :=
    receive_responds ofTwo hlive (A := ⟨"b"⟩) rfl ⟨rfl, rfl, rfl, rfl⟩ "?"
  rw [Creator.RespondsTo] at hresponds
  obtain ⟨rfl, rfl, rfl⟩ := hresponds
  exact ⟨n, _, _, hrun, rfl, rfl⟩

end BridgeHost

end WebviewBridge
