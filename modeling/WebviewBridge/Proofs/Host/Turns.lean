import WebviewBridge.Host.Peer
import WebviewBridge.Proofs.Host.Reading

/-!
# Runs of a bridge host

A run of a host is a list of turns.  A turn is the smallest thing that can happen: somebody asks to
be let in, frames of a session arrive, its peer goes away, what was written to it is taken, a
message goes out to all sessions, time passes, an alarm goes off, somebody else changes what the
sessions share, the host stops.  Turns may follow each other in any order.

Main statements: everything that is done with a host is a run, also by peers that send bytes
(`advance_eq_after`, `exists_after_replay`, `Peer.exists_after_receive`); a host that has stopped
stays so (`IsShut.after`).
-/

namespace WebviewBridge

namespace BridgeHost

/-- Something that happens to a host. -/
inductive Turn where
  /-- The head of a request has arrived in some packets, or part of it. -/
  | greet (peer : PeerAddress) (head : ByteArray) (packets : ℕ)
  | receive (id : SessionId) (frames : List Frame)
  /-- The peer of a session goes away after some last frames. -/
  | lose (id : SessionId) (frames : List Frame)
  /-- What was written to a session is taken. -/
  | collect (id : SessionId)
  | announce (m : IncomingMessage)
  /-- Time passes. -/
  | wait (ms : ℕ)
  | fire (a : Alarm)
  /-- What the sessions share changes. -/
  | meanwhile (host : Host)
  | stop

/-- Whether the host stops. -/
def Turn.isStop : Turn → Bool
  | stop => true
  | _ => false

/-- What comes of the head of a request.  A host that has stopped does not listen any more, and
talks to nobody but the machine itself. -/
def greet (b : BridgeHost) (peer : PeerAddress) (head : ByteArray) (packets : ℕ) : Exchange :=
  if b.listening && peer.isLoopback then Peer.greet b head packets
  else { bridge := b, peer := .gone }

/-- A host after a turn. -/
def turn (b : BridgeHost) : Turn → BridgeHost
  | .greet peer head packets => (b.greet peer head packets).bridge
  | .receive id frames => b.receive id frames
  | .lose id frames => b.lose id frames
  | .collect id => (b.collect id).1
  | .announce m => (b.announce m).1
  | .wait ms => { b with elapsed := b.elapsed + ms }
  | .fire a => b.fire a
  | .meanwhile host => { b with host }
  | .stop => b.stop

/-- A host after some turns. -/
def after (b : BridgeHost) (ts : List Turn) : BridgeHost := ts.foldl turn b

@[simp] lemma after_nil (b : BridgeHost) : b.after [] = b := rfl

@[simp] lemma after_cons (b : BridgeHost) (t : Turn) (ts : List Turn) :
    b.after (t :: ts) = (b.turn t).after ts := rfl

lemma after_append (b : BridgeHost) (ts us : List Turn) :
    b.after (ts ++ us) = (b.after ts).after us := List.foldl_append

/-- To take what was written to a session is to do something with its connection. -/
lemma fst_collect (b : BridgeHost) (id : SessionId) :
    (b.collect id).1 = b.withConnection id fun h k => (h, { k with outbox := [] }) := by
  rw [collect, withConnection]
  cases b.connection? id <;> rfl

/-! ## Hosts that have stopped -/

/-- A host that takes in no connections and has none. -/
structure IsShut (b : BridgeHost) : Prop where
  listening : b.listening = false
  connections : b.connections = []

lemma isShut_release (b : BridgeHost) : b.release.IsShut := ⟨rfl, rfl⟩

namespace IsShut

variable {b : BridgeHost}

/-- Nobody is let in. -/
lemma greet (h : b.IsShut) (peer : PeerAddress) (head : ByteArray) (packets : ℕ) :
    b.greet peer head packets = { bridge := b, peer := .gone } := by
  rw [BridgeHost.greet, h.listening, Bool.false_and]
  exact if_neg Bool.false_ne_true

lemma withConnection (h : b.IsShut) (id : SessionId)
    (f : Host → HostConnection → Host × HostConnection) : b.withConnection id f = b := by
  rw [BridgeHost.withConnection, connection?, h.connections]
  rfl

/-- No turn brings a connection back. -/
lemma turn (h : b.IsShut) (t : Turn) : (b.turn t).IsShut := by
  cases t with
  | greet peer head packets =>
    rw [BridgeHost.turn, h.greet]
    exact h
  | receive id frames =>
    rw [BridgeHost.turn, receive, h.withConnection]
    exact h
  | lose id frames =>
    rw [BridgeHost.turn, lose, h.withConnection]
    exact h
  | collect id =>
    rw [BridgeHost.turn, fst_collect, h.withConnection]
    exact h
  | announce m => exact ⟨h.listening, by rw [BridgeHost.turn, announce, h.connections]; rfl⟩
  | wait ms => exact ⟨h.listening, h.connections⟩
  | fire a => cases a <;> (rw [BridgeHost.turn, fire, h.withConnection]; exact h)
  | meanwhile host => exact ⟨h.listening, h.connections⟩
  | stop => exact ⟨rfl, rfl⟩

/-- **A host that has stopped stays so**, whatever happens to it. -/
theorem after (h : b.IsShut) (ts : List Turn) : (b.after ts).IsShut := by
  induction ts generalizing b with
  | nil => exact h
  | cons t ts ih => exact ih (h.turn t)

end IsShut

/-! ## What is done with a host is a run -/

/-- The turns in which time passes, and all that has become due is done. -/
def passing (b : BridgeHost) (ms : ℕ) : List Turn :=
  .wait ms :: (due { b with elapsed := b.elapsed + ms }).map .fire

/-- To let time pass, and do all that has become due, is a run. -/
theorem advance_eq_after (b : BridgeHost) (ms : ℕ) : b.advance ms = b.after (b.passing ms) := by
  rw [passing, after_cons, after, List.foldl_map]
  rfl

/-- To carry out a stored submission is a run. -/
theorem exists_after_replay (b : BridgeHost) (remove : Bool) :
    ∃ ts, (b.replay remove).1 = b.after ts :=
  ⟨[.meanwhile _], rfl⟩

end BridgeHost

namespace Peer

open BridgeHost (Turn)

/-- To take in what arrives in a session, and what is written to it, is a run. -/
lemma exists_after_arrive (id : SessionId) (arrivals : List Wire.Arrival) (b : BridgeHost)
    (bytes : ByteArray) :
    ∃ ts, (arrivals.foldl (arrive id) (b, bytes)).1 = b.after ts := by
  induction arrivals generalizing b bytes with
  | nil => exact ⟨[], rfl⟩
  | cons a arrivals ih =>
    rw [List.foldl_cons]
    cases a with
    | frame f =>
      obtain ⟨ts, hts⟩ := ih ((b.receive id [f]).collect id).1
        (bytes ++ (written (b.receive id [f]) id).2)
      exact ⟨.receive id [f] :: .collect id :: ts, hts⟩
    | ping content => exact ih b (bytes ++ Wire.encode .pong content)

/-- To take in a packet of a peer of a host that listens is a run, whatever the packet. -/
theorem exists_after_receive (b : BridgeHost) (hb : b.listening = true) (p : Peer)
    (bytes : ByteArray) : ∃ ts, (p.receive b bytes).bridge = b.after ts := by
  cases p with
  | greeting head packets =>
    refine ⟨[.greet .loopback (head ++ bytes) (packets + 1)], ?_⟩
    rw [BridgeHost.after_cons, BridgeHost.turn, BridgeHost.greet, hb]
    rfl
  | served id inlet =>
    obtain ⟨ts, hts⟩ := exists_after_arrive id (inlet.feed bytes).2.1 b .empty
    rw [receive]
    split
    rename_i inlet' arrivals fine hfeed
    rw [hfeed] at hts
    simp only
    split
    · exact ⟨ts, hts⟩
    · refine ⟨ts ++ [.lose id []], ?_⟩
      rw [BridgeHost.after_append, ← hts]
      rfl
  | gone => exact ⟨[], rfl⟩

/-- To take what was written to a peer is a run. -/
theorem exists_after_collect (b : BridgeHost) (p : Peer) :
    ∃ ts, (p.collect b).bridge = b.after ts := by
  cases p with
  | served id inlet =>
    refine ⟨[.collect id], ?_⟩
    rw [collect]
    split
    split <;> rename_i hwritten _ <;> exact (congrArg Prod.fst hwritten).symm
  | greeting head packets => exact ⟨[], rfl⟩
  | gone => exact ⟨[], rfl⟩

/-- A peer that goes away without a word is a run. -/
theorem exists_after_vanish (b : BridgeHost) (p : Peer) : ∃ ts, p.vanish b = b.after ts := by
  cases p with
  | served id inlet => exact ⟨[.lose id []], rfl⟩
  | greeting head packets => exact ⟨[], rfl⟩
  | gone => exact ⟨[], rfl⟩

end Peer

/-! ## What the turns do to one connection -/

namespace BridgeHost

variable (b : BridgeHost)

/-- The session of a peer that is let in. -/
def admits : Turn → Option SessionId
  | .greet peer head packets =>
    match (b.greet peer head packets).peer with
    | .served id _ => some id
    | _ => none
  | _ => none

/-- The frames that arrive for a session. -/
def arriving (id : SessionId) : Turn → List Frame
  | .receive id' frames | .lose id' frames =>
    if id' = id ∧ (b.connection? id).isSome then frames else []
  | _ => []

/-- What is taken off the connection of a session. -/
def taking (id : SessionId) : Turn → List Reading
  | .receive id' frames =>
    match b.connection? id with
    | some k =>
      if id' = id then
        { k with inbox := k.inbox ++ frames }.readServing b.creator b.elapsed b.host
      else []
    | none => []
  | .lose id' frames =>
    match b.connection? id with
    | some k =>
      if id' = id then
        { k with inbox := k.inbox ++ frames, lost := true }.readServing b.creator b.elapsed b.host
      else []
    | none => []
  | .fire (.resume id') =>
    match b.connection? id with
    | some k => if id' = id then k.readResuming b.creator b.elapsed b.host else []
    | none => []
  | _ => []

/-- The sessions of the peers that are let in during some turns, in that order. -/
def admitted (b : BridgeHost) : List Turn → List SessionId
  | [] => []
  | t :: ts => (b.admits t).toList ++ (b.turn t).admitted ts

/-- The frames that arrive for a session during some turns. -/
def arrived (b : BridgeHost) (id : SessionId) : List Turn → List Frame
  | [] => []
  | t :: ts => b.arriving id t ++ (b.turn t).arrived id ts

/-- What is taken off the connection of a session during some turns. -/
def taken (b : BridgeHost) (id : SessionId) : List Turn → List Reading
  | [] => []
  | t :: ts => b.taking id t ++ (b.turn t).taken id ts

/-- Whether a session has ended during some turns: the host has stopped, or the end of the
connection was taken off it. -/
def hasEnded (id : SessionId) (ts : List Turn) : Bool :=
  ts.any (·.isStop) || (b.taken id ts).any (·.ends)

end BridgeHost

end WebviewBridge
