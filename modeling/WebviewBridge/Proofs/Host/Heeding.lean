import WebviewBridge.Proofs.Host.Turns

/-!
# Frames that make no difference

Binary and control frames have no effect, and neither has anything that follows the frame that
closes a connection.  So a host does the same whether such frames arrive or not: two runs that
differ in nothing else lead to hosts that differ in nothing but the frames that wait for a handler
(`BridgeHost.after_heeding`).
-/

namespace WebviewBridge

/-- The frames that make a difference: the texts up to the frame that closes the connection, and
that frame. -/
def Frame.heeded : List Frame → List Frame
  | [] => []
  | .close :: _ => [.close]
  | .other :: rest => heeded rest
  | .text content :: rest => .text content :: heeded rest

namespace Frame

@[simp] lemma heeded_heeded (fs : List Frame) : heeded (heeded fs) = heeded fs := by
  induction fs with
  | nil => rfl
  | cons f fs ih =>
    cases f with
    | text content => exact congrArg (Frame.text content :: ·) ih
    | other => exact ih
    | close => rfl

/-- Whether frames are heeded does not depend on when those are left out that are not. -/
lemma heeded_append_heeded (fs gs : List Frame) :
    heeded (heeded fs ++ heeded gs) = heeded (fs ++ gs) := by
  induction fs with
  | nil => exact heeded_heeded gs
  | cons f fs ih =>
    cases f with
    | text content => exact congrArg (Frame.text content :: ·) ih
    | other => exact ih
    | close => rfl

end Frame

namespace HostConnection

/-- A connection without the frames that wait and will make no difference. -/
def heeding (k : HostConnection) : HostConnection := { k with inbox := Frame.heeded k.inbox }

variable {k : HostConnection}

@[simp] lemma heeding_heeding : k.heeding.heeding = k.heeding := by
  rw [heeding, heeding, Frame.heeded_heeded]

lemma write_heeding : k.heeding.write = k.write.heeding := by
  have hlost : k.heeding.lost = k.lost := rfl
  have hsession : k.heeding.session = k.session := rfl
  rw [write, write, hlost, hsession]
  split_ifs <;> rfl

/-- The frames that make no difference make none when frames are handled. -/
lemma handleAll_heeded (c : Creator) (now : ℕ) (fs : List Frame) (h : Host) (k : HostConnection) :
    handleAll c now (Frame.heeded fs) h k.heeding =
      ((handleAll c now fs h k).1, (handleAll c now fs h k).2.heeding) := by
  induction fs generalizing h k with
  | nil => rfl
  | cons f fs ih =>
    cases f with
    | other => exact ih h k
    | close => rfl
    | text content =>
      have hsession : k.heeding.session = k.session := rfl
      rw [Frame.heeded, handleAll, handleAll, hsession]
      rcases (c.handleFrame content).proceed h k.session with ⟨h', s', ⟨⟩ | ⟨ms, more⟩⟩
      · have hrest := ih h' { k with session := s' }.write
        rw [← write_heeding] at hrest
        exact hrest
      · exact congrArg (h', ·) (write_heeding (k := { k with
          session := s', inbox := fs, waiter := some ⟨now + ms, more⟩ }))

/-- Nor do they when frames arrive, whether the peer is there or gone. -/
lemma serve_heeding (c : Creator) (now : ℕ) (h : Host) (k : HostConnection) (fs : List Frame)
    (lost : Bool) :
    (serve c now h { k.heeding with inbox := k.heeding.inbox ++ Frame.heeded fs, lost }).1 =
        (serve c now h { k with inbox := k.inbox ++ fs, lost }).1 ∧
      (serve c now h { k.heeding with
        inbox := k.heeding.inbox ++ Frame.heeded fs, lost }).2.heeding =
        (serve c now h { k with inbox := k.inbox ++ fs, lost }).2.heeding := by
  have hsame : { k.heeding with inbox := k.heeding.inbox ++ Frame.heeded fs, lost }.heeding =
      { k with inbox := k.inbox ++ fs, lost }.heeding := by
    simp only [heeding, Frame.heeded_append_heeded]
  by_cases hw : k.waiter.isSome = true
  · have hleft : serve c now h
        { k.heeding with inbox := k.heeding.inbox ++ Frame.heeded fs, lost } = (h, _) := if_pos hw
    have hright : serve c now h { k with inbox := k.inbox ++ fs, lost } = (h, _) := if_pos hw
    rw [hleft, hright]
    exact ⟨rfl, hsame⟩
  · have hleft : serve c now h
        { k.heeding with inbox := k.heeding.inbox ++ Frame.heeded fs, lost } =
        handleAll c now (k.heeding.inbox ++ Frame.heeded fs) h _ := if_neg hw
    have hright : serve c now h { k with inbox := k.inbox ++ fs, lost } =
        handleAll c now (k.inbox ++ fs) h _ := if_neg hw
    have hall := handleAll_heeded c now (k.heeding.inbox ++ Frame.heeded fs) h
      { k.heeding with inbox := k.heeding.inbox ++ Frame.heeded fs, lost }
    rw [hsame, heeding, Frame.heeded_append_heeded, handleAll_heeded, Prod.mk.injEq] at hall
    rw [hleft, hright]
    exact ⟨hall.1.symm, hall.2.symm⟩

/-- Nor do they when a handler goes on. -/
lemma resume_heeding (c : Creator) (now : ℕ) (h : Host) (k : HostConnection) :
    k.heeding.resume c now h = ((k.resume c now h).1, (k.resume c now h).2.heeding) := by
  have hsession : k.heeding.session = k.session := rfl
  have hwaiter : k.heeding.waiter = k.waiter := rfl
  rw [resume, resume, hwaiter]
  cases k.waiter with
  | none => rfl
  | some w =>
    simp only [hsession]
    rcases w.rest.proceed h k.session with ⟨h', s', ⟨⟩ | ⟨ms, more⟩⟩
    · have hrest := handleAll_heeded c now k.inbox h'
        { k with session := s', waiter := none }.write
      rw [← write_heeding] at hrest
      exact hrest
    · exact congrArg (h', ·) (write_heeding (k := { k with
        session := s', waiter := some ⟨now + ms, more⟩ }))

end HostConnection

namespace BridgeHost

/-- A turn without the frames that make no difference among those that arrive. -/
def Turn.heeding : Turn → Turn
  | receive id frames => receive id (Frame.heeded frames)
  | lose id frames => lose id (Frame.heeded frames)
  | t => t

/-- A host without the frames that wait and will make no difference. -/
def heeding (b : BridgeHost) : BridgeHost :=
  { b with connections := b.connections.map (·.heeding) }

variable (b : BridgeHost)

@[simp] lemma heeding_heeding : b.heeding.heeding = b.heeding := by
  simp only [heeding, List.map_map, Function.comp_def, HostConnection.heeding_heeding]

@[simp] lemma Turn.heeding_heeding (t : Turn) : t.heeding.heeding = t.heeding := by
  cases t <;> simp only [heeding, Frame.heeded_heeded]

lemma connection?_heeding (A : SessionId) :
    b.heeding.connection? A = (b.connection? A).map (·.heeding) := by
  rw [connection?, connection?, heeding, List.find?_map]
  rfl

lemma put_heeding (k : HostConnection) : (b.put k).heeding = b.heeding.put k.heeding := by
  have hput : ∀ x : HostConnection, (if x.id = k.id then k else x).heeding =
      if x.heeding.id = k.heeding.id then k.heeding else x.heeding := by
    intro x
    change _ = if x.id = k.id then k.heeding else x.heeding
    split <;> rfl
  have hconnections : (b.put k).heeding.connections = (b.heeding.put k.heeding).connections := by
    calc ((b.connections.map fun x => if x.id = k.id then k else x).filter (!·.ended)).map
          (·.heeding)
        = ((b.connections.map fun x => if x.id = k.id then k else x).map (·.heeding)).filter
            (!·.ended) := by
          rw [List.filter_map (f := HostConnection.heeding)]
          rfl
      _ = ((b.connections.map (·.heeding)).map fun x =>
            if x.id = k.heeding.id then k.heeding else x).filter (!·.ended) := by
          rw [List.map_map, List.map_map]
          congr 1
          exact List.map_congr_left fun x _ => hput x
  exact congrArg (fun connections => { b with connections }) hconnections

variable {b}

/-- To do something with a connection makes no difference where the thing done makes none. -/
lemma withConnection_heeding (A : SessionId)
    {f f' : Host → HostConnection → Host × HostConnection}
    (hf : ∀ h k, (f' h k.heeding).1 = (f h k).1 ∧
      (f' h k.heeding).2.heeding = (f h k).2.heeding) :
    (b.heeding.withConnection A f').heeding = (b.withConnection A f).heeding := by
  rw [withConnection, withConnection, connection?_heeding]
  cases b.connection? A with
  | none => exact b.heeding_heeding
  | some k =>
    obtain ⟨hhost, hconnection⟩ := hf b.host k
    change (put { b.heeding with host := (f' b.host k.heeding).1 }
      (f' b.host k.heeding).2).heeding = (put { b with host := (f b.host k).1 } _).heeding
    rw [put_heeding, put_heeding, hhost, hconnection]
    exact congrArg (put · _) (heeding_heeding { b with host := (f b.host k).1 })

lemma greet_heeding (b : BridgeHost) (peer : PeerAddress) (head : ByteArray) (packets : ℕ) :
    (b.heeding.greet peer head packets).bridge = (b.greet peer head packets).bridge.heeding := by
  have haccept : b.heeding.accept.1 = b.accept.1.heeding := by
    simp only [accept, heeding, List.map_append]
    rfl
  have htoken : b.heeding.token = b.token := rfl
  rw [greet, greet]
  change Exchange.bridge (if b.listening && peer.isLoopback then _ else _) = _
  split
  · rw [Peer.greet, Peer.greet]
    rcases RequestHead.ofArrived packets head.toList with (_ | _) | request
    · rfl
    · rfl
    · simp only [upgrade, htoken]
      cases UpgradeAnswer.ofTarget b.token request.target.toList with
      | accepted => exact haccept
      | unauthorized => rfl
  · rfl

lemma announce_heeding (b : BridgeHost) (m : IncomingMessage) :
    (b.heeding.announce m).1 = (b.announce m).1.heeding := by
  have hsend : ∀ k : HostConnection, (k.heeding.send m).1 = (k.send m).1.heeding := fun k =>
    HostConnection.write_heeding (k := { k with session := (k.session.send m).1 })
  have hconnections : (b.heeding.announce m).1.connections =
      (b.announce m).1.heeding.connections := by
    simp only [announce, heeding, List.map_map, Function.comp_def, hsend]
  exact congrArg (fun connections => { b with connections }) hconnections

lemma fire_heeding (b : BridgeHost) (a : Alarm) :
    (b.heeding.fire a).heeding = (b.fire a).heeding := by
  cases a with
  | resume A =>
    refine withConnection_heeding A fun h k => ?_
    change (k.heeding.resume b.creator b.elapsed h).1 = _ ∧
      (k.heeding.resume b.creator b.elapsed h).2.heeding = _
    rw [HostConnection.resume_heeding]
    exact ⟨rfl, HostConnection.heeding_heeding⟩
  | ping A deadline =>
    refine withConnection_heeding A fun h k => ⟨rfl, ?_⟩
    have hsend : (k.heeding.send Payload.ping.announcement).1 =
        (k.send Payload.ping.announcement).1.heeding :=
      HostConnection.write_heeding
        (k := { k with session := (k.session.send Payload.ping.announcement).1 })
    change HostConnection.heeding { (k.heeding.send Payload.ping.announcement).1 with
      nextPing := if (k.send Payload.ping.announcement).2 then b.pingAfter deadline else none } = _
    rw [hsend]
    exact HostConnection.heeding_heeding (k := { (k.send Payload.ping.announcement).1 with
      nextPing := if (k.send Payload.ping.announcement).2 then b.pingAfter deadline else none })

/-- A turn does the same without the frames that make no difference. -/
lemma turn_heeding (b : BridgeHost) (t : Turn) :
    (b.heeding.turn t.heeding).heeding = (b.turn t).heeding := by
  cases t with
  | greet peer head packets =>
    exact (congrArg heeding (b.greet_heeding peer head packets)).trans (heeding_heeding _)
  | receive A frames =>
    exact withConnection_heeding A fun h k =>
      HostConnection.serve_heeding b.creator b.elapsed h k frames k.lost
  | lose A frames =>
    exact withConnection_heeding A fun h k =>
      HostConnection.serve_heeding b.creator b.elapsed h k frames true
  | collect A =>
    change (b.heeding.collect A).1.heeding = (b.collect A).1.heeding
    rw [fst_collect, fst_collect]
    exact withConnection_heeding A fun h k =>
      ⟨rfl, HostConnection.heeding_heeding (k := { k with outbox := [] })⟩
  | announce m => exact (congrArg heeding (b.announce_heeding m)).trans (heeding_heeding _)
  | wait ms => exact heeding_heeding { b with elapsed := b.elapsed + ms }
  | fire a => exact b.fire_heeding a
  | meanwhile host => exact heeding_heeding { b with host }
  | stop => rfl

/-- **Frames without effect.**  A run is the same without the binary and control frames, and
without whatever follows the frame that closes a connection. -/
theorem after_heeding {b b' : BridgeHost} (hb : b'.heeding = b.heeding) (ts : List Turn) :
    (b'.after (ts.map (·.heeding))).heeding = (b.after ts).heeding := by
  induction ts generalizing b b' with
  | nil => exact hb
  | cons t ts ih =>
    refine ih ?_
    have hturn := b'.turn_heeding t.heeding
    rw [Turn.heeding_heeding, hb, turn_heeding] at hturn
    exact hturn.symm

end BridgeHost

end WebviewBridge
