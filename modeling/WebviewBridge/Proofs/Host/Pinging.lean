import WebviewBridge.Proofs.Envelope.Types
import WebviewBridge.Proofs.Host.Sessions

/-!
# The pings of a bridge host

A host pings all sessions when it is asked to, and each session when its alarm goes off.  Main
statements: the pings that wait to be taken by a peer are those that were sent to it and not taken
yet, whatever else is written to it (`BridgeHost.Keeps.mem_turn`); a pong that is taken
off a connection is counted, and nothing else comes of it (`HostConnection.handleAll_of_isPong`).
-/

namespace WebviewBridge

open Json

namespace HostConnection

variable {k k' : HostConnection}

/-- The pings that were written and that the peer has not taken yet. -/
def pings (k : HostConnection) : ℕ := k.outbox.countP IncomingMessage.isPing

/-- The pongs that have arrived and are not handled yet. -/
def pongs (k : HostConnection) : ℕ := k.inbox.countP (·.isPong)

/-- A message to a peer that is there is one more frame for it. -/
lemma IsSettled.send_eq (hk : k.IsSettled) (hlost : k.lost = false)
    (hopen : k.session.isOpen = true) (m : IncomingMessage) :
    k.send m = ({ k with outbox := k.outbox ++ [m.wire] }, true) := by
  rw [send_of_isOpen hopen, hk.write_queue hlost]

/-- Among the texts of messages that are no pings there is no ping. -/
lemma countP_isPing_wire {added : List IncomingMessage}
    (hadded : ∀ x ∈ added, x.messageType ≠ Kind.ping.messageType) :
    (added.map (·.wire)).countP IncomingMessage.isPing = 0 := by
  refine List.countP_eq_zero.2 fun text htext => ?_
  obtain ⟨x, hx, rfl⟩ := List.mem_map.1 htext
  exact Bool.eq_false_iff.1 (IncomingMessage.isPing_wire_of_ne (hadded x hx))

/-- What becomes of a connection when some pings are sent to its peer, and some are taken by it.  Of
a peer that is gone nothing is said. -/
structure Passes (k : HostConnection) (sent taken : ℕ) (k' : HostConnection) : Prop where
  id_eq : k'.id = k.id
  pings_eq : k'.lost = false → k.lost = false ∧ k'.pings + taken = k.pings + sent

lemma passes_nil (k : HostConnection) : k.Passes 0 0 k := ⟨rfl, fun hlost => ⟨hlost, rfl⟩⟩

/-- Handlers write no pings. -/
lemma Takes.passes {frames : List Frame} {rs : List Reading} (ht : k.Takes frames rs k')
    (hqueue : k.session.queue = []) : k.Passes 0 0 k' where
  id_eq := ht.id_eq
  pings_eq hlost := by
    have hlost' : k.lost = false := ht.lost_eq.symm.trans hlost
    obtain ⟨added, hadded, houtbox⟩ := ht.written
    refine ⟨hlost', ?_⟩
    rw [pings, pings, houtbox hlost', hqueue, List.append_nil, List.countP_append,
      countP_isPing_wire hadded]

/-- Frames arrive, and the peer may go away. -/
lemma IsSettled.passes_serve (hk : k.IsSettled) (c : Creator) (now : ℕ) (h : Host)
    (arrived : List Frame) {lost : Bool} (hlost : lost = false → k.lost = false) :
    k.Passes 0 0 (serve c now h { k with inbox := k.inbox ++ arrived, lost }).2 := by
  have hpasses := (hk.takes_serve c now h arrived lost).passes hk.queue
  refine ⟨hpasses.id_eq, fun hlost' => ?_⟩
  obtain ⟨hsame, hpings⟩ := hpasses.pings_eq hlost'
  exact ⟨hlost hsame, hpings⟩

/-- A message is sent, and the next ping may be put off. -/
lemma IsSettled.passes_send (hk : k.IsSettled)
    (hopen : k.lost = false → k.session.isOpen = true) {m : IncomingMessage}
    (hm : m.messageType = Kind.ping.messageType → m.data.Portable 126) (nextPing : Option ℕ) :
    k.Passes (if m.messageType = Kind.ping.messageType then 1 else 0) 0
      { (k.send m).1 with nextPing } where
  id_eq := (hk.reads_send m nextPing).id_eq
  pings_eq hlost := by
    have hlost' := ((hk.reads_send m nextPing).isOpen hlost).1
    refine ⟨hlost', ?_⟩
    simp only [hk.send_eq hlost' (hopen hlost'), pings, List.countP_append, List.countP_singleton]
    by_cases hping : m.messageType = Kind.ping.messageType
    · rw [IncomingMessage.isPing_wire (hm hping), decide_eq_true hping, if_pos rfl, if_pos hping,
        Nat.add_zero]
    · rw [IncomingMessage.isPing_wire_of_ne hping, if_neg Bool.false_ne_true, if_neg hping]

/-- What was written is taken. -/
lemma passes_collect (k : HostConnection) :
    k.Passes 0 (k.outbox.countP IncomingMessage.isPing) { k with outbox := [] } :=
  ⟨rfl, fun hlost => ⟨hlost, Nat.add_comm _ _⟩⟩

/-- **A pong is counted, and no handler sees it.**  The frames behind it are handled as if it had
not been there. -/
theorem handleAll_of_isPong (hqueue : k.session.queue = []) {text : String}
    (htext : (Frame.text text).isPong = true) (c : Creator) (now : ℕ) (rest : List Frame)
    (h : Host) :
    handleAll c now (.text text :: rest) h k =
      handleAll c now rest h { k with session := k.session.recordPong } := by
  have hwrite : { k with session := k.session.recordPong }.write =
      { k with session := k.session.recordPong } := by
    rcases k with ⟨⟨id, isOpen, queue, pongs⟩, inbox, waiter, lost, nextPing, outbox, ended⟩
    obtain rfl : queue = [] := hqueue
    cases lost
    · simp only [write, Session.recordPong, List.append_nil, Bool.false_eq_true, if_false]
    · rfl
  rw [handleAll, c.handleFrame_of_pong (Frame.isPong_text_iff.1 htext)]
  change handleAll c now rest h { k with session := k.session.recordPong }.write = _
  rw [hwrite]

end HostConnection

namespace BridgeHost

variable (b : BridgeHost)

/-- Whether a ping goes out to a session in a turn. -/
def pinging (id : SessionId) : Turn → ℕ
  | .announce m =>
    if m.messageType = Kind.ping.messageType ∧ (b.connection? id).isSome then 1 else 0
  | .fire (.ping id' _) => if id' = id ∧ (b.connection? id).isSome then 1 else 0
  | _ => 0

/-- No ping goes out to a session that is not there. -/
lemma pinging_eq_zero {id : SessionId} (hid : b.connection? id = none) (t : Turn) :
    b.pinging id t = 0 := by
  cases t with
  | announce m => exact if_neg fun h => by simp [hid] at h
  | fire a =>
    cases a with
    | resume A => rfl
    | ping A deadline => exact if_neg fun h => by simp [hid] at h
  | _ => rfl

/-- What a peer takes of what was written to it. -/
def collecting (id : SessionId) : Turn → List String
  | .collect id' => if id' = id then (b.collect id).2 else []
  | _ => []

variable {b}

namespace Keeps

variable {admitted : List SessionId} {taken : SessionId → List Reading}
  {arrived : SessionId → List Frame} {stopped : Bool} {k k' : HostConnection}

lemma connection?_eq (h : b.Keeps admitted taken arrived stopped) (hk : k ∈ b.connections) :
    b.connection? k.id = some k := by
  cases hx : b.connection? k.id with
  | none =>
    have hne : ¬ k.id = k.id := by simpa using List.find?_eq_none.1 hx k hk
    exact absurd rfl hne
  | some x =>
    obtain ⟨hx, hid⟩ := connection?_eq_some hx
    rw [h.eq_of_id_eq hk hx hid]

/-- Who was not let in has no connection. -/
lemma connection?_eq_none (h : b.Keeps admitted taken arrived stopped) {id : SessionId}
    (hid : id ∉ admitted) : b.connection? id = none := by
  cases hx : b.connection? id with
  | none => rfl
  | some k =>
    obtain ⟨hk, rfl⟩ := connection?_eq_some hx
    exact absurd (h.mem_ids_iff.1 (List.mem_map.2 ⟨k, hk, rfl⟩)).1 hid

/-- The pongs that have arrived for a session are those that wait and those that were counted. -/
lemma pongs_add_eq (h : b.Keeps admitted taken arrived stopped) (hk : k ∈ b.connections) :
    k.pongs + k.session.pongs = (arrived k.id).countP (·.isPong) := by
  have hframes : ∀ rs : List Reading, (Reading.frames rs).countP (·.isPong) =
      rs.countP (·.isPong) := by
    intro rs
    induction rs with
    | nil => rfl
    | cons r rs ih =>
      cases r with
      | frame f =>
        change (f :: Reading.frames rs).countP (·.isPong) = _
        rw [List.countP_cons, List.countP_cons, ih]
        rfl
      | gone =>
        change (Reading.frames rs).countP (·.isPong) = _
        rw [ih, List.countP_cons_of_neg (by exact nofun)]
  obtain ⟨rest, hrest, hinbox⟩ := h.rest k.id
  rw [← hrest, List.countP_append, hframes, ← h.pongs_eq k hk, ← hinbox k hk rfl, Nat.add_comm]
  rfl

/-- Whoever is in the table after a turn that is about one session was there before. -/
lemma exists_passes_withConnection (h : b.Keeps admitted taken arrived stopped) (t : Turn)
    {A : SessionId} {f : Host → HostConnection → Host × HostConnection}
    (hf : ∀ k ∈ b.connections, k.id = A → k.Passes (b.pinging A t)
      ((b.collecting A t).countP IncomingMessage.isPing) (f b.host k).2)
    (hothers : ∀ id, id ≠ A → b.pinging id t = 0 ∧ b.collecting id t = [])
    (hk' : k' ∈ (b.withConnection A f).connections) :
    ∃ k ∈ b.connections,
      k.Passes (b.pinging k'.id t) ((b.collecting k'.id t).countP IncomingMessage.isPing) k' := by
  have hother : ∀ {x : HostConnection}, x.id ≠ A → x.Passes (b.pinging x.id t)
      ((b.collecting x.id t).countP IncomingMessage.isPing) x := by
    intro x hx
    rw [(hothers x.id hx).1, (hothers x.id hx).2]
    exact x.passes_nil
  rw [BridgeHost.withConnection] at hk'
  cases hA : b.connection? A with
  | none =>
    rw [hA] at hk'
    refine ⟨k', hk', hother fun hkA => ?_⟩
    rw [← hkA, h.connection?_eq hk'] at hA
    cases hA
  | some k =>
    obtain ⟨hk, hkA⟩ := connection?_eq_some hA
    rw [hA] at hk'
    have hpasses := hf k hk hkA
    obtain ⟨x, hx, rfl⟩ := List.mem_map.1 (List.mem_filter.1 hk').1
    refine ⟨x, hx, ?_⟩
    simp only [hpasses.id_eq]
    split
    · rename_i hid
      obtain rfl := h.eq_of_id_eq hk hx hid
      rw [hpasses.id_eq, hkA]
      exact hpasses
    · rename_i hid
      exact hother (hkA ▸ hid)

/-- Whoever is in the table after the head of a request was new, or was there before. -/
lemma mem_greet {peer : PeerAddress} {head : ByteArray} {packets : ℕ}
    (hk' : k' ∈ (b.greet peer head packets).bridge.connections) :
    b.admits (.greet peer head packets) = some k'.id ∧ k'.outbox = [] ∨ k' ∈ b.connections := by
  rw [admits]
  rw [BridgeHost.greet] at hk' ⊢
  split at hk'
  · rename_i hopen
    rw [if_pos hopen]
    have hgreets := b.greets head packets
    generalize Peer.greet b head packets = e at hgreets hk' ⊢
    cases hgreets with
    | accepted request hhead htoken =>
      rcases List.mem_append.1 hk' with hk | hk
      · exact Or.inr hk
      · rw [List.mem_singleton.1 hk]
        exact Or.inl ⟨rfl, rfl⟩
    | _ => exact Or.inr hk'
  · exact Or.inr hk'

/-- **The pings that wait for a peer were sent and not taken yet.**  A session that is in the table
after a turn is a new one, or was there before. -/
theorem mem_turn (h : b.Keeps admitted taken arrived stopped) {t : Turn}
    (ht : ∀ m, t = .announce m → m.messageType = Kind.ping.messageType → m.data.Portable 126)
    (hk' : k' ∈ (b.turn t).connections) :
    b.admits t = some k'.id ∧ k'.outbox = [] ∨
    ∃ k ∈ b.connections,
      k.Passes (b.pinging k'.id t) ((b.collecting k'.id t).countP IncomingMessage.isPing) k' := by
  cases t with
  | greet peer head packets =>
    exact (mem_greet hk').imp_right fun hk => ⟨k', hk, k'.passes_nil⟩
  | receive A new =>
    refine Or.inr (h.exists_passes_withConnection _ (fun k hk _ => ?_) (fun _ _ => ⟨rfl, rfl⟩) hk')
    exact (h.isSettled k hk).passes_serve b.creator b.elapsed b.host new id
  | lose A new =>
    refine Or.inr (h.exists_passes_withConnection _ (fun k hk _ => ?_) (fun _ _ => ⟨rfl, rfl⟩) hk')
    exact (h.isSettled k hk).passes_serve b.creator b.elapsed b.host new nofun
  | collect A =>
    rw [BridgeHost.turn, fst_collect] at hk'
    refine Or.inr (h.exists_passes_withConnection _ (fun k hk hA => ?_) (fun id hid => ?_) hk')
    · have htaken : b.collecting A (.collect A) = k.outbox := by
        rw [collecting, if_pos rfl, BridgeHost.collect, ← hA, h.connection?_eq hk]
      rw [htaken]
      exact k.passes_collect
    · exact ⟨rfl, if_neg (Ne.symm hid)⟩
  | announce m =>
    obtain ⟨r, hr, rfl⟩ := List.mem_map.1 hk'
    obtain ⟨k, hk, rfl⟩ := List.mem_map.1 hr
    have hpasses := (h.isSettled k hk).passes_send (h.isOpen k hk) (ht m rfl) (k.send m).1.nextPing
    have hpinging : b.pinging k.id (.announce m) =
        if m.messageType = Kind.ping.messageType then 1 else 0 := by
      simp only [pinging, h.connection?_eq hk, Option.isSome_some, and_true]
    refine Or.inr ⟨k, hk, ?_⟩
    have hid : (k.send m).1.id = k.id := hpasses.id_eq
    rw [hid, hpinging]
    exact hpasses
  | wait ms => exact Or.inr ⟨k', hk', k'.passes_nil⟩
  | fire a =>
    cases a with
    | resume A =>
      refine Or.inr
        (h.exists_passes_withConnection _ (fun k hk _ => ?_) (fun _ _ => ⟨rfl, rfl⟩) hk')
      have hk := h.isSettled k hk
      exact (hk.takes_resume b.creator b.elapsed b.host).passes hk.queue
    | ping A deadline =>
      refine Or.inr (h.exists_passes_withConnection _ (fun k hk hA => ?_) (fun id hid => ?_) hk')
      · have hpinging : b.pinging A (.fire (.ping A deadline)) = 1 :=
          if_pos ⟨rfl, by rw [← hA, h.connection?_eq hk]; rfl⟩
        rw [hpinging]
        exact (h.isSettled k hk).passes_send (h.isOpen k hk) (m := Payload.ping.announcement)
          (fun _ => ⟨⟨trivial, Nat.zero_le _⟩, trivial⟩) _
      · exact ⟨if_neg fun h => hid h.1.symm, rfl⟩
  | meanwhile host => exact Or.inr ⟨k', hk', k'.passes_nil⟩
  | stop => cases hk'

end Keeps

end BridgeHost

end WebviewBridge
