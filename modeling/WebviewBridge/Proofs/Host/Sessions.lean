import Mathlib.Algebra.GroupWithZero.Nat
import Mathlib.Data.List.Nodup
import WebviewBridge.Proofs.Host.Admission
import WebviewBridge.Proofs.Host.Heeding

/-!
# The sessions of a bridge host

At every moment of every run the table of a host holds the connections that were let in and have
not ended, and no others.  The invariant, `BridgeHost.Keeps`, says so of a host together with what
its run has come to so far: who was let in, what arrived for each session, and what of that was
taken.  What one turn does to a connection is `HostConnection.Reads`; that every turn keeps the
invariant is `Keeps.turn`.
-/

namespace WebviewBridge

namespace HostConnection

variable {k k' : HostConnection} {frames : List Frame} {rs : List Reading}

/-- A connection with one more frame in its queue. -/
def queue (k : HostConnection) (frame : String) : HostConnection :=
  { k with session := { k.session with queue := k.session.queue ++ [frame] } }

/-- One more frame goes to a peer that is there. -/
lemma IsSettled.write_queue (hk : k.IsSettled) (hlost : k.lost = false) (frame : String) :
    (k.queue frame).write = { k with outbox := k.outbox ++ [frame] } := by
  rcases k with ⟨⟨id, isOpen, queue, pongs⟩, inbox, waiter, lost, nextPing, outbox, ended⟩
  obtain rfl : queue = [] := hk.queue
  obtain rfl : lost = false := hlost
  rfl

/-- What becomes of a connection in a turn in which some frames arrive and some readings are
taken. -/
structure Reads (k : HostConnection) (frames : List Frame) (rs : List Reading)
    (k' : HostConnection) : Prop where
  id_eq : k'.id = k.id
  ended_eq : k'.ended = rs.any (·.ends)
  last : rs.Pairwise fun r _ => r.ends = false
  rest : ∃ rest, Reading.frames rs ++ rest = k.inbox ++ frames ∧
    (k'.ended = false → k'.inbox = rest)
  pongs_eq : k'.session.pongs = k.session.pongs + rs.countP (·.isPong)
  isSettled : k'.ended = false → k'.IsSettled
  isOpen : k'.lost = false → k.lost = false ∧ k'.session.isOpen = k.session.isOpen

/-- Nothing becomes of a connection that somebody else's turn is about. -/
lemma IsSettled.reads_nil (hk : k.IsSettled) : k.Reads [] [] k where
  id_eq := rfl
  ended_eq := hk.ended
  last := .nil
  rest := ⟨k.inbox, by rw [List.append_nil]; rfl, fun _ => rfl⟩
  pongs_eq := rfl
  isSettled _ := hk
  isOpen hlost := ⟨hlost, rfl⟩

/-- Frames arrive. -/
lemma IsSettled.reads_receive (hk : k.IsSettled) (c : Creator) (now : ℕ) (h : Host)
    (frames : List Frame) :
    k.Reads frames (readServing c now h { k with inbox := k.inbox ++ frames })
      (serve c now h { k with inbox := k.inbox ++ frames }).2 := by
  have ht := hk.takes_serve c now h frames k.lost
  refine ⟨ht.id_eq, ht.ended_eq, ht.last, ht.rest, ht.pongs_eq, ht.isSettled, fun hlost => ?_⟩
  have hlost' : k.lost = false := ht.lost_eq.symm.trans hlost
  exact ⟨hlost', ht.isOpen_eq hlost'⟩

/-- The peer goes away after some last frames. -/
lemma IsSettled.reads_lose (hk : k.IsSettled) (c : Creator) (now : ℕ) (h : Host)
    (frames : List Frame) :
    k.Reads frames (readServing c now h { k with inbox := k.inbox ++ frames, lost := true })
      (serve c now h { k with inbox := k.inbox ++ frames, lost := true }).2 := by
  have ht := hk.takes_serve c now h frames true
  refine ⟨ht.id_eq, ht.ended_eq, ht.last, ht.rest, ht.pongs_eq, ht.isSettled, fun hlost => ?_⟩
  rw [ht.lost_eq] at hlost
  cases hlost

/-- A handler goes on. -/
lemma IsSettled.reads_resume (hk : k.IsSettled) (c : Creator) (now : ℕ) (h : Host) :
    k.Reads [] (readResuming c now h k) (k.resume c now h).2 := by
  have ht := hk.takes_resume c now h
  rw [← List.append_nil k.inbox] at ht
  refine ⟨ht.id_eq, ht.ended_eq, ht.last, ht.rest, ht.pongs_eq, ht.isSettled, fun hlost => ?_⟩
  have hlost' : k.lost = false := ht.lost_eq.symm.trans hlost
  exact ⟨hlost', ht.isOpen_eq hlost'⟩

/-- While the queue is open, a message goes into it and is written. -/
lemma send_of_isOpen (hopen : k.session.isOpen = true) (m : IncomingMessage) :
    k.send m = ((k.queue m.wire).write, true) := by
  rw [send, Session.send_of_isOpen hopen]
  rfl

/-- A message goes out, or what was written is taken, or the next ping is put off. -/
lemma IsSettled.reads_send (hk : k.IsSettled) (m : IncomingMessage) (nextPing : Option ℕ) :
    k.Reads [] [] { (k.send m).1 with nextPing } := by
  have hended : (k.send m).1.ended = false := ended_write.trans hk.ended
  constructor
  case id_eq =>
    have hid : (k.send m).1.id = k.id := id_write.trans (k.session.send_id m)
    exact hid
  case ended_eq => exact hended
  case last => exact .nil
  case rest =>
    have hinbox : (k.send m).1.inbox = k.inbox := inbox_write
    exact ⟨k.inbox, by rw [List.append_nil]; rfl, fun _ => hinbox⟩
  case pongs_eq =>
    have hpongs : (k.send m).1.session.pongs = k.session.pongs :=
      pongs_write.trans (k.session.send_pongs m)
    exact hpongs
  case isSettled =>
    intro _
    have hwaiter : (k.send m).1.waiter = k.waiter := waiter_write
    have hinbox : (k.send m).1.inbox = k.inbox := inbox_write
    have hlost : (k.send m).1.lost = k.lost := lost_write
    have hqueue : (k.send m).1.session.queue = [] := queue_write
    refine ⟨hended, hqueue, ?_, ?_⟩
    · change (k.send m).1.waiter = none → (k.send m).1.inbox = [] ∧ (k.send m).1.lost = false
      rw [hwaiter, hinbox, hlost]
      exact hk.idle
    · change ∀ w, (k.send m).1.waiter = some w → w.rest.All Effect.IsOrdinary
      rw [hwaiter]
      exact hk.waits
  case isOpen =>
    intro hlost
    have hsame : (k.send m).1.lost = k.lost := lost_write
    have hlost' : k.lost = false := hsame.symm.trans hlost
    have hopen : (k.send m).1.session.isOpen = (k.session.send m).1.isOpen :=
      isOpen_write (by exact hlost')
    exact ⟨hlost', hopen.trans (k.session.send_isOpen m)⟩

lemma IsSettled.reads_collect (hk : k.IsSettled) : k.Reads [] [] { k with outbox := [] } where
  id_eq := rfl
  ended_eq := hk.ended
  last := .nil
  rest := ⟨k.inbox, by rw [List.append_nil]; rfl, fun _ => rfl⟩
  pongs_eq := rfl
  isSettled _ := ⟨hk.ended, hk.queue, hk.idle, hk.waits⟩
  isOpen hlost := ⟨hlost, rfl⟩

end HostConnection

namespace BridgeHost

lemma connection?_eq_some {b : BridgeHost} {id : SessionId} {k : HostConnection}
    (h : b.connection? id = some k) : k ∈ b.connections ∧ k.id = id :=
  ⟨List.mem_of_find?_eq_some h, by simpa using List.find?_some h⟩

/-! ## The invariant -/

/-- What holds of a host after a run in which some peers were let in, some frames arrived for each
session, and some of them were taken. -/
structure Keeps (b : BridgeHost) (admitted : List SessionId) (taken : SessionId → List Reading)
    (arrived : SessionId → List Frame) (stopped : Bool) : Prop where
  distinct : Function.Injective b.freshSessions
  fresh : admitted = (List.range b.accepted).map b.freshSessions
  listening : b.listening = !stopped
  table : b.connections.map (·.id) =
    admitted.filter fun id => !(stopped || (taken id).any (·.ends))
  unmet : ∀ id, id ∉ admitted → taken id = [] ∧ arrived id = []
  last : ∀ id, (taken id).Pairwise fun r _ => r.ends = false
  rest : ∀ id, ∃ rest, Reading.frames (taken id) ++ rest = arrived id ∧
    ∀ k ∈ b.connections, k.id = id → k.inbox = rest
  pongs_eq : ∀ k ∈ b.connections, k.session.pongs = (taken k.id).countP (·.isPong)
  isSettled : ∀ k ∈ b.connections, k.IsSettled
  isOpen : ∀ k ∈ b.connections, k.lost = false → k.session.isOpen = true

namespace Keeps

variable {b : BridgeHost} {admitted : List SessionId} {taken : SessionId → List Reading}
  {arrived : SessionId → List Frame} {stopped : Bool} {id : SessionId} {k : HostConnection}

lemma nodup_admitted (h : b.Keeps admitted taken arrived stopped) : admitted.Nodup := by
  rw [h.fresh]
  exact List.nodup_range.map h.distinct

lemma nodup_ids (h : b.Keeps admitted taken arrived stopped) :
    (b.connections.map (·.id)).Nodup := by
  rw [h.table]
  exact h.nodup_admitted.filter _

lemma isLive (h : b.Keeps admitted taken arrived stopped) : b.IsLive :=
  fun k hk => (h.isSettled k hk).ended

/-- A session is in the table as long as it has not ended. -/
lemma mem_ids_iff (h : b.Keeps admitted taken arrived stopped) :
    id ∈ b.connections.map (·.id) ↔
      id ∈ admitted ∧ stopped = false ∧ (taken id).any (·.ends) = false := by
  rw [h.table, List.mem_filter, Bool.not_eq_true', Bool.or_eq_false_iff]

/-- Two connections in the table that are of one session are one and the same. -/
lemma eq_of_id_eq (h : b.Keeps admitted taken arrived stopped) {x : HostConnection}
    (hk : k ∈ b.connections) (hx : x ∈ b.connections) (hid : x.id = k.id) : x = k :=
  List.inj_on_of_nodup_map h.nodup_ids hx hk hid

/-- Every turn that lets nobody in, and does not stop the host, does something to each connection in
the table; those that have ended are taken out. -/
lemma of_reads (h : b.Keeps admitted taken arrived stopped) (b' : BridgeHost)
    (hfresh : b'.freshSessions = b.freshSessions) (haccepted : b'.accepted = b.accepted)
    (hlistening : b'.listening = b.listening) (g : HostConnection → HostConnection)
    (hconnections : b'.connections = (b.connections.map g).filter (!·.ended))
    (rs : SessionId → List Reading) (frames : SessionId → List Frame)
    (hreads : ∀ k ∈ b.connections, k.Reads (frames k.id) (rs k.id) (g k))
    (habsent : ∀ id, id ∉ b.connections.map (·.id) → rs id = [] ∧ frames id = []) :
    b'.Keeps admitted (fun id => taken id ++ rs id) (fun id => arrived id ++ frames id)
      stopped := by
  have hmem : ∀ x ∈ b'.connections, ∃ k ∈ b.connections, x = g k ∧ x.id = k.id ∧
      x.ended = false := by
    intro x hx
    rw [hconnections, List.mem_filter] at hx
    obtain ⟨k, hk, rfl⟩ := List.mem_map.1 hx.1
    exact ⟨k, hk, rfl, (hreads k hk).id_eq, by simpa using hx.2⟩
  constructor
  case distinct => rw [hfresh]; exact h.distinct
  case fresh => rw [hfresh, haccepted]; exact h.fresh
  case listening => rw [hlistening]; exact h.listening
  case table =>
    have hkept : ∀ k ∈ b.connections, (!(g k).ended) = !(rs k.id).any (·.ends) := fun k hk => by
      rw [(hreads k hk).ended_eq]
    have hids : ∀ k ∈ b.connections.filter fun k => !(rs k.id).any (·.ends), (g k).id = k.id :=
      fun k hk => (hreads k (List.mem_filter.1 hk).1).id_eq
    calc b'.connections.map (·.id)
        = (b.connections.filter fun k => !(g k).ended).map fun k => (g k).id := by
          rw [hconnections, List.filter_map, List.map_map]
          rfl
      _ = (b.connections.filter fun k => !(rs k.id).any (·.ends)).map (·.id) := by
          rw [List.filter_congr hkept, List.map_congr_left hids]
      _ = (b.connections.map (·.id)).filter fun id => !(rs id).any (·.ends) := by
          rw [List.filter_map]
          rfl
      _ = admitted.filter fun id => !(stopped || (taken id ++ rs id).any (·.ends)) := by
          rw [h.table, List.filter_filter]
          refine List.filter_congr fun id _ => ?_
          rw [List.any_append, ← Bool.or_assoc, Bool.not_or _ ((rs id).any _), Bool.and_comm]
  case unmet =>
    intro id hid
    obtain ⟨htaken, harrived⟩ := h.unmet id hid
    obtain ⟨hrs, hframes⟩ := habsent id fun hin => hid (h.mem_ids_iff.1 hin).1
    rw [htaken, harrived, hrs, hframes]
    exact ⟨rfl, rfl⟩
  case last =>
    intro id
    by_cases hid : id ∈ b.connections.map (·.id)
    · obtain ⟨k, hk, rfl⟩ := List.mem_map.1 hid
      refine List.pairwise_append.2 ⟨h.last k.id, (hreads k hk).last, fun r hr _ _ => ?_⟩
      have hnone := (h.mem_ids_iff.1 hid).2.2
      exact eq_false_of_ne_true (List.any_eq_false.1 hnone r hr)
    · rw [(habsent id hid).1, List.append_nil]
      exact h.last id
  case rest =>
    intro id
    obtain ⟨rest, hrest, hinbox⟩ := h.rest id
    by_cases hid : id ∈ b.connections.map (·.id)
    · obtain ⟨k, hk, rfl⟩ := List.mem_map.1 hid
      obtain ⟨rest', hrest', hinbox'⟩ := (hreads k hk).rest
      refine ⟨rest', ?_, fun x hx hxid => ?_⟩
      · rw [Reading.frames_append, List.append_assoc, hrest', hinbox k hk rfl,
          ← List.append_assoc, hrest]
      · obtain ⟨k', hk', rfl, hk'id, hended⟩ := hmem x hx
        obtain rfl := h.eq_of_id_eq hk hk' (hk'id.symm.trans hxid)
        exact hinbox' hended
    · obtain ⟨hrs, hframes⟩ := habsent id hid
      refine ⟨rest, ?_, fun x hx hxid => ?_⟩
      · rw [hrs, hframes, List.append_nil, List.append_nil, hrest]
      · obtain ⟨k', hk', -, hk'id, -⟩ := hmem x hx
        exact absurd (List.mem_map.2 ⟨k', hk', hk'id.symm.trans hxid⟩) hid
  case pongs_eq =>
    intro x hx
    obtain ⟨k, hk, rfl, hid, -⟩ := hmem x hx
    rw [(hreads k hk).pongs_eq, h.pongs_eq k hk, hid, List.countP_append]
  case isSettled =>
    intro x hx
    obtain ⟨k, hk, rfl, -, hended⟩ := hmem x hx
    exact (hreads k hk).isSettled hended
  case isOpen =>
    intro x hx hlost
    obtain ⟨k, hk, rfl, -, -⟩ := hmem x hx
    obtain ⟨hlost', hopen⟩ := (hreads k hk).isOpen hlost
    rw [hopen]
    exact h.isOpen k hk hlost'

/-- A turn that does nothing to any connection. -/
lemma of_same (h : b.Keeps admitted taken arrived stopped) (b' : BridgeHost)
    (hfresh : b'.freshSessions = b.freshSessions) (haccepted : b'.accepted = b.accepted)
    (hlistening : b'.listening = b.listening) (hconnections : b'.connections = b.connections)
    {rs : SessionId → List Reading} {frames : SessionId → List Frame}
    (hnothing : ∀ id, rs id = [] ∧ frames id = []) :
    b'.Keeps admitted (fun id => taken id ++ rs id) (fun id => arrived id ++ frames id)
      stopped := by
  have hlive : b.connections.filter (!·.ended) = b.connections := by
    refine List.filter_eq_self.2 fun k hk => ?_
    rw [h.isLive k hk]
    rfl
  refine h.of_reads b' hfresh haccepted hlistening (fun k => k) ?_ rs frames (fun k hk => ?_)
    fun id _ => hnothing id
  · rw [hconnections, List.map_id', hlive]
  · rw [(hnothing k.id).1, (hnothing k.id).2]
    exact (h.isSettled k hk).reads_nil

/-- A turn that is about one session. -/
lemma withConnection (h : b.Keeps admitted taken arrived stopped) (A : SessionId)
    {f : Host → HostConnection → Host × HostConnection}
    {rs : SessionId → List Reading} {frames : SessionId → List Frame}
    (hfound : ∀ k, b.connection? A = some k → k.IsSettled →
      k.Reads (frames A) (rs A) (f b.host k).2)
    (hnone : b.connection? A = none → rs A = [] ∧ frames A = [])
    (hothers : ∀ id, id ≠ A → rs id = [] ∧ frames id = []) :
    (b.withConnection A f).Keeps admitted (fun id => taken id ++ rs id)
      (fun id => arrived id ++ frames id) stopped := by
  rw [BridgeHost.withConnection]
  cases hA : b.connection? A with
  | none =>
    refine h.of_same b rfl rfl rfl rfl fun id => ?_
    by_cases hid : id = A
    · rw [hid]
      exact hnone hA
    · exact hothers id hid
  | some k =>
    obtain ⟨hk, hkA⟩ := connection?_eq_some hA
    have hreads := hfound k hA (h.isSettled k hk)
    have hconnections : (put { b with host := (f b.host k).1 } (f b.host k).2).connections =
        (b.connections.map fun x =>
          if x.id = (f b.host k).2.id then (f b.host k).2 else x).filter (!·.ended) := rfl
    refine h.of_reads (put { b with host := (f b.host k).1 } (f b.host k).2) rfl rfl rfl _
      hconnections rs frames (fun x hx => ?_) fun id hid => ?_
    · simp only [hreads.id_eq]
      split
      · rename_i hid
        obtain rfl := h.eq_of_id_eq hk hx hid
        rw [hkA]
        exact hreads
      · rename_i hid
        obtain ⟨hrs, hframes⟩ := hothers x.id (hkA ▸ hid)
        rw [hrs, hframes]
        exact (h.isSettled x hx).reads_nil
    · refine hothers id ?_
      rintro rfl
      exact hid (List.mem_map.2 ⟨k, hk, hkA⟩)

/-- A peer is let in. -/
lemma accept (h : b.Keeps admitted taken arrived false) :
    { b with accepted := b.accepted + 1, connections := b.connections ++ [b.newcomer] }.Keeps
      (admitted ++ [b.freshSessions b.accepted]) taken arrived false := by
  have hnew : b.freshSessions b.accepted ∉ admitted := by
    rw [h.fresh]
    intro hmem
    obtain ⟨n, hn, heq⟩ := List.mem_map.1 hmem
    exact Nat.ne_of_lt (List.mem_range.1 hn) (h.distinct heq)
  obtain ⟨htaken, harrived⟩ := h.unmet _ hnew
  have hid : b.newcomer.id = b.freshSessions b.accepted := rfl
  constructor
  case distinct => exact h.distinct
  case fresh => rw [List.range_succ, List.map_append, ← h.fresh]; rfl
  case listening => exact h.listening
  case table =>
    rw [List.map_append, h.table, List.filter_append]
    congr 1
    rw [List.filter_cons_of_pos (by rw [htaken]; rfl)]
    rfl
  case unmet => exact fun id hin => h.unmet id fun hmem => hin (List.mem_append_left _ hmem)
  case last => exact h.last
  case rest =>
    intro id
    obtain ⟨rest, hrest, hinbox⟩ := h.rest id
    refine ⟨rest, hrest, fun k hk hkid => ?_⟩
    rcases List.mem_append.1 hk with hk | hk
    · exact hinbox k hk hkid
    · obtain rfl := List.mem_singleton.1 hk
      obtain rfl : b.freshSessions b.accepted = id := hkid
      rw [htaken, harrived] at hrest
      exact hrest.symm
  case pongs_eq =>
    intro k hk
    rcases List.mem_append.1 hk with hk | hk
    · exact h.pongs_eq k hk
    · obtain rfl := List.mem_singleton.1 hk
      rw [hid, htaken]
      rfl
  case isSettled =>
    intro k hk
    rcases List.mem_append.1 hk with hk | hk
    · exact h.isSettled k hk
    · obtain rfl := List.mem_singleton.1 hk
      exact ⟨rfl, rfl, fun _ => ⟨rfl, rfl⟩, nofun⟩
  case isOpen =>
    intro k hk
    rcases List.mem_append.1 hk with hk | hk
    · exact h.isOpen k hk
    · obtain rfl := List.mem_singleton.1 hk
      exact fun _ => rfl

/-- The host stops. -/
lemma stop (h : b.Keeps admitted taken arrived stopped) :
    b.stop.Keeps admitted taken arrived true where
  distinct := h.distinct
  fresh := h.fresh
  listening := rfl
  table := (List.filter_eq_nil_iff.2 fun _ _ => Bool.false_ne_true).symm
  unmet := h.unmet
  last := h.last
  rest id := by
    obtain ⟨rest, hrest, -⟩ := h.rest id
    exact ⟨rest, hrest, nofun⟩
  pongs_eq := nofun
  isSettled := nofun
  isOpen := nofun

/-! ## Turns and runs -/

lemma receive (h : b.Keeps admitted taken arrived stopped) (A : SessionId) (new : List Frame) :
    (b.receive A new).Keeps admitted (fun id => taken id ++ b.taking id (.receive A new))
      (fun id => arrived id ++ b.arriving id (.receive A new)) stopped := by
  refine h.withConnection A (fun k hA hk => ?_) (fun hA => ?_) fun id hid => ?_
  · simp only [taking, arriving, hA, if_true, and_true, Option.isSome_some]
    exact hk.reads_receive b.creator b.elapsed b.host new
  · simp only [taking, arriving, hA]
    exact ⟨trivial, if_neg (by simp)⟩
  · simp only [taking, arriving, Ne.symm hid, false_and, if_false, and_true]
    split <;> rfl

lemma lose (h : b.Keeps admitted taken arrived stopped) (A : SessionId) (new : List Frame) :
    (b.lose A new).Keeps admitted (fun id => taken id ++ b.taking id (.lose A new))
      (fun id => arrived id ++ b.arriving id (.lose A new)) stopped := by
  refine h.withConnection A (fun k hA hk => ?_) (fun hA => ?_) fun id hid => ?_
  · simp only [taking, arriving, hA, if_true, and_true, Option.isSome_some]
    exact hk.reads_lose b.creator b.elapsed b.host new
  · simp only [taking, arriving, hA]
    exact ⟨trivial, if_neg (by simp)⟩
  · simp only [taking, arriving, Ne.symm hid, false_and, if_false, and_true]
    split <;> rfl

lemma fire (h : b.Keeps admitted taken arrived stopped) (a : Alarm) :
    (b.fire a).Keeps admitted (fun id => taken id ++ b.taking id (.fire a))
      (fun id => arrived id ++ b.arriving id (.fire a)) stopped := by
  cases a with
  | resume A =>
    rw [BridgeHost.fire]
    refine h.withConnection A (fun k hA hk => ?_) (fun hA => ?_) fun id hid => ?_
    · simp only [taking, hA, if_true]
      exact hk.reads_resume b.creator b.elapsed b.host
    · simp only [taking, hA]
      exact ⟨trivial, rfl⟩
    · simp only [taking, Ne.symm hid, if_false]
      exact ⟨by split <;> rfl, rfl⟩
  | ping A deadline =>
    rw [BridgeHost.fire]
    refine h.withConnection A (fun k _ hk => ?_) (fun _ => ⟨rfl, rfl⟩) fun _ _ => ⟨rfl, rfl⟩
    exact hk.reads_send Payload.ping.announcement _

lemma collect (h : b.Keeps admitted taken arrived stopped) (A : SessionId) :
    (b.collect A).1.Keeps admitted (fun id => taken id ++ b.taking id (.collect A))
      (fun id => arrived id ++ b.arriving id (.collect A)) stopped := by
  rw [fst_collect]
  exact h.withConnection A (fun k _ hk => hk.reads_collect) (fun _ => ⟨rfl, rfl⟩)
    fun _ _ => ⟨rfl, rfl⟩

lemma announce (h : b.Keeps admitted taken arrived stopped) (m : IncomingMessage) :
    (b.announce m).1.Keeps admitted (fun id => taken id ++ b.taking id (.announce m))
      (fun id => arrived id ++ b.arriving id (.announce m)) stopped := by
  have hreads : ∀ k ∈ b.connections, k.Reads [] [] (k.send m).1 := fun k hk =>
    (h.isSettled k hk).reads_send m (k.send m).1.nextPing
  have hlive : (b.connections.map fun k => (k.send m).1).filter (!·.ended) =
      b.connections.map fun k => (k.send m).1 := by
    refine List.filter_eq_self.2 fun x hx => ?_
    obtain ⟨k, hk, rfl⟩ := List.mem_map.1 hx
    rw [(hreads k hk).ended_eq]
    rfl
  have hconnections : (b.announce m).1.connections =
      (b.connections.map fun k => (k.send m).1).filter (!·.ended) := by
    rw [hlive]
    exact List.map_map
  exact h.of_reads (b.announce m).1 rfl rfl rfl _ hconnections _ _ hreads fun _ _ => ⟨rfl, rfl⟩

lemma greet (h : b.Keeps admitted taken arrived stopped) (peer : PeerAddress) (head : ByteArray)
    (packets : ℕ) :
    (b.greet peer head packets).bridge.Keeps
      (admitted ++ (b.admits (.greet peer head packets)).toList) taken arrived stopped := by
  rw [admits, BridgeHost.greet]
  split
  · rename_i hopen
    have hstopped : stopped = false := by
      have hlistening := (Bool.and_eq_true_iff.1 hopen).1
      rw [h.listening] at hlistening
      simpa using hlistening
    subst hstopped
    have hgreets := b.greets head packets
    generalize Peer.greet b head packets = e at hgreets ⊢
    cases hgreets with
    | accepted request hhead htoken => exact h.accept
    | _ => exact (List.append_nil admitted).symm ▸ h
  · exact (List.append_nil admitted).symm ▸ h

/-- Every turn keeps the invariant. -/
theorem turn (h : b.Keeps admitted taken arrived stopped) (t : Turn) :
    (b.turn t).Keeps (admitted ++ (b.admits t).toList) (fun id => taken id ++ b.taking id t)
      (fun id => arrived id ++ b.arriving id t) (stopped || t.isStop) := by
  have hnobody : ∀ {b' : BridgeHost} {taken' : SessionId → List Reading}
      {arrived' : SessionId → List Frame},
      b'.Keeps admitted taken' arrived' stopped →
        b'.Keeps (admitted ++ (none : Option SessionId).toList) taken' arrived'
          (stopped || false) := by
    intro b' taken' arrived' h'
    rw [Option.toList_none, List.append_nil, Bool.or_false]
    exact h'
  have hnothing : (fun id => taken id ++ []) = taken := funext fun id => List.append_nil _
  have hnone : (fun id => arrived id ++ []) = arrived := funext fun id => List.append_nil _
  cases t with
  | greet peer head packets =>
    change Keeps _ _ (fun id => taken id ++ []) (fun id => arrived id ++ []) (stopped || false)
    rw [hnothing, hnone, Bool.or_false]
    exact h.greet peer head packets
  | receive A new => exact hnobody (h.receive A new)
  | lose A new => exact hnobody (h.lose A new)
  | collect A => exact hnobody (h.collect A)
  | announce m => exact hnobody (h.announce m)
  | wait ms =>
    exact hnobody
      (h.of_same { b with elapsed := b.elapsed + ms } rfl rfl rfl rfl fun _ => ⟨rfl, rfl⟩)
  | fire a => exact hnobody (h.fire a)
  | meanwhile host => exact hnobody (h.of_same { b with host } rfl rfl rfl rfl fun _ => ⟨rfl, rfl⟩)
  | stop =>
    change Keeps _ (admitted ++ []) (fun id => taken id ++ []) (fun id => arrived id ++ [])
      (stopped || true)
    rw [hnothing, hnone, Bool.or_true, List.append_nil]
    exact h.stop

/-- Every run keeps the invariant. -/
theorem after (h : b.Keeps admitted taken arrived stopped) (ts : List Turn) :
    (b.after ts).Keeps (admitted ++ b.admitted ts) (fun id => taken id ++ b.taken id ts)
      (fun id => arrived id ++ b.arrived id ts) (stopped || ts.any (·.isStop)) := by
  induction ts generalizing b admitted taken arrived stopped with
  | nil =>
    rw [List.any_nil, Bool.or_false, BridgeHost.admitted, List.append_nil]
    exact h.of_same b rfl rfl rfl rfl fun _ => ⟨rfl, rfl⟩
  | cons t ts ih =>
    have hrest := ih (h.turn t)
    simp only [List.append_assoc] at hrest
    rw [List.any_cons, ← Bool.or_assoc]
    exact hrest

end Keeps

/-! ## Announcements -/

/-- A host whose connections all have one more frame in their queues, which is written. -/
def reaching (b : BridgeHost) (m : IncomingMessage) : BridgeHost :=
  { b with connections := b.connections.map fun k => (k.queue m.wire).write }

/-- As long as all queues are open, a message goes out to all sessions. -/
lemma announce_eq (b : BridgeHost) (hopen : ∀ k ∈ b.connections, k.session.isOpen = true)
    (m : IncomingMessage) : b.announce m = (b.reaching m, b.sessionCount) := by
  have hsend : ∀ k ∈ b.connections, k.send m = ((k.queue m.wire).write, true) :=
    fun k hk => HostConnection.send_of_isOpen (hopen k hk) m
  have hall : b.connections.map (·.send m) =
      b.connections.map fun k => ((k.queue m.wire).write, true) := List.map_congr_left hsend
  have htook : (b.connections.map fun k => ((k.queue m.wire).write, true)).filter (·.2) =
      b.connections.map fun k => ((k.queue m.wire).write, true) := by
    refine List.filter_eq_self.2 fun x hx => ?_
    obtain ⟨k, -, rfl⟩ := List.mem_map.1 hx
    rfl
  simp only [announce, hall, htook, List.length_map, List.map_map]
  rfl

/-! ## What can be relied on -/

/-- The sessions that have not ended, in the order in which their peers were let in. -/
def present (b : BridgeHost) (ts : List Turn) : List SessionId :=
  (b.admitted ts).filter fun id => !b.hasEnded id ts

/-- What is promised about the sessions of a host after some turns. -/
structure KeepsSessions (b : BridgeHost) (ts : List Turn) : Prop where
  /-- No session is let in twice. -/
  once : (b.admitted ts).Nodup
  /-- The table holds the sessions that were let in and have not ended. -/
  table : (b.after ts).connections.map (·.id) = b.present ts
  counted : (b.after ts).sessionCount = (b.present ts).length
  /-- The pongs of these sessions are counted, as far as they were taken off the connections. -/
  pongs : (b.after ts).pongsReceived =
    ((b.present ts).map fun id => (b.taken id ts).countP (·.isPong)).sum
  /-- What arrives for a session is taken in that order, and what is not taken yet waits. -/
  inOrder : ∀ k ∈ (b.after ts).connections,
    Reading.frames (b.taken k.id ts) ++ k.inbox = b.arrived k.id ts
  /-- Nothing is left to be taken, unless a handler waits. -/
  prompt : ∀ k ∈ (b.after ts).connections, k.waiter = none → k.inbox = [] ∧ k.lost = false
  /-- Only what arrives is taken, and nothing after the frame that closes the connection. -/
  last : ∀ id, Reading.frames (b.taken id ts) <+: b.arrived id ts ∧
    (b.taken id ts).Pairwise fun r _ => r.ends = false
  /-- Binary and control frames have no effect, and neither has what follows a frame that closes the
  connection. -/
  unheeded : (b.after (ts.map (·.heeding))).heeding = (b.after ts).heeding
  /-- Who is let in, is turned down or gets no answer, and that nothing changes unless somebody is
  let in. -/
  greeted : ∀ head packets, (b.after ts).token = b.token ∧
    (b.after ts).Greets head packets (Peer.greet (b.after ts) head packets)
  /-- Nobody gets an answer who is not on the machine itself, or comes after the host stopped. -/
  strangers : ∀ peer head packets, peer.isLoopback = false ∨ .stop ∈ ts →
    (b.after ts).greet peer head packets = { bridge := b.after ts, peer := .gone }
  /-- The queue of a session is open as long as its peer is there. -/
  isOpen : ∀ k ∈ (b.after ts).connections, k.lost = false → k.session.isOpen = true
  /-- With all queues open, pings, untyped and typed messages go out to all sessions, and the
  number of these is given. -/
  reached : (∀ k ∈ (b.after ts).connections, k.session.isOpen = true) →
    (b.after ts).pingAll =
        ((b.after ts).reaching (.broadcast Kind.ping.messageType .null), (b.present ts).length) ∧
      (∀ t data, (b.after ts).announce (.broadcast t data) =
        ((b.after ts).reaching (.broadcast t data), (b.present ts).length)) ∧
      ∀ p, (b.after ts).push p =
        ((b.after ts).reaching (.broadcast p.messageType p.data), (b.present ts).length)
  /-- What goes out to a session is one frame more for its peer, behind those written before. -/
  written : ∀ k ∈ (b.after ts).connections, k.lost = false → ∀ frame,
    (k.queue frame).write = { k with outbox := k.outbox ++ [frame] }
  /-- A host that has stopped has no sessions. -/
  stopped : .stop ∈ ts → (b.after ts).connections = []

variable {b : BridgeHost}

lemma token_turn (b : BridgeHost) (t : Turn) : (b.turn t).token = b.token := by
  have hconnection : ∀ A f, (b.withConnection A f).token = b.token := by
    intro A f
    rw [withConnection]
    split <;> rfl
  cases t with
  | greet peer head packets =>
    rw [turn, greet]
    split
    · have hgreets := b.greets head packets
      generalize Peer.greet b head packets = e at hgreets ⊢
      cases hgreets <;> rfl
    · rfl
  | receive A frames => exact hconnection A _
  | lose A frames => exact hconnection A _
  | collect A =>
    rw [turn, fst_collect]
    exact hconnection A _
  | fire a =>
    cases a with
    | resume A => exact hconnection A _
    | ping A deadline => exact hconnection A _
  | _ => rfl

lemma token_after (b : BridgeHost) (ts : List Turn) : (b.after ts).token = b.token := by
  induction ts generalizing b with
  | nil => rfl
  | cons t ts ih => exact (ih (b.turn t)).trans (b.token_turn t)

lemma pongsReceived_eq_sum (b : BridgeHost) :
    b.pongsReceived = (b.connections.map (·.session.pongs)).sum := by
  rw [pongsReceived, ← List.foldl_map, ← List.sum_eq_foldl]

/-- From a state of the invariant in which nobody was let in yet, all promises are kept. -/
theorem keepsSessions_of_keeps (hb : b.Keeps [] (fun _ => []) (fun _ => []) false)
    (ts : List Turn) : b.KeepsSessions ts := by
  have h := hb.after ts
  have hstop : ts.any (·.isStop) = true ↔ .stop ∈ ts := by
    rw [List.any_eq_true]
    constructor
    · rintro ⟨t, ht, hstop⟩
      cases t <;> first | exact ht | cases hstop
    · exact fun ht => ⟨.stop, ht, rfl⟩
  have htable : (b.after ts).connections.map (·.id) = b.present ts := h.table
  have hcounted : (b.after ts).sessionCount = (b.present ts).length := by
    rw [← htable, List.length_map, sessionCount]
  constructor
  case once => exact h.nodup_admitted
  case table => exact htable
  case counted => exact hcounted
  case pongs =>
    rw [pongsReceived_eq_sum, ← htable, List.map_map]
    exact congrArg List.sum (List.map_congr_left h.pongs_eq)
  case inOrder =>
    intro k hk
    obtain ⟨rest, hrest, hinbox⟩ := h.rest k.id
    rw [hinbox k hk rfl]
    exact hrest
  case prompt => exact fun k hk => (h.isSettled k hk).idle
  case last =>
    intro id
    obtain ⟨rest, hrest, -⟩ := h.rest id
    exact ⟨⟨rest, hrest⟩, h.last id⟩
  case unheeded => exact after_heeding rfl ts
  case greeted => exact fun head packets => ⟨b.token_after ts, greets _ head packets⟩
  case strangers =>
    intro peer head packets hpeer
    have hclosed : ((b.after ts).listening && peer.isLoopback) = false := by
      rcases hpeer with hpeer | hpeer
      · rw [hpeer, Bool.and_false]
      · rw [h.listening, hstop.2 hpeer]
        rfl
    rw [greet, hclosed]
    rfl
  case isOpen => exact h.isOpen
  case reached =>
    intro hopen
    rw [← hcounted]
    exact ⟨announce_eq _ hopen _, fun t data => announce_eq _ hopen _,
      fun p => announce_eq _ hopen _⟩
  case written =>
    intro k hk hlost frame
    exact (h.isSettled k hk).write_queue hlost frame
  case stopped =>
    intro hts
    have hnone := h.table
    rw [hstop.2 hts] at hnone
    have hempty := hnone.trans (List.filter_eq_nil_iff.2 fun _ _ => Bool.false_ne_true)
    exact List.map_eq_nil_iff.1 hempty

/-- A host that has just started keeps the invariant: nobody was let in yet. -/
lemma keeps_of_start {config : BridgeConfig} {creator : Creator} {s : Surroundings}
    {host host' : Host} (hstart : start config creator s host = (host', .ok b))
    (hinj : Function.Injective s.freshSessions) :
    b.Keeps [] (fun _ => []) (fun _ => []) false := by
  have hb : b.connections = [] ∧ b.accepted = 0 ∧ b.listening = true ∧
      b.freshSessions = s.freshSessions := by
    simp only [start] at hstart
    cases hbind : s.bind config.host.port with
    | error e =>
      rw [hbind] at hstart
      cases hstart
    | ok port =>
      rw [hbind] at hstart
      cases hstart
      exact ⟨rfl, rfl, rfl, rfl⟩
  obtain ⟨hconnections, haccepted, hlistening, hfresh⟩ := hb
  constructor
  case distinct => rw [hfresh]; exact hinj
  case fresh => rw [haccepted]; rfl
  case listening => exact hlistening
  case table => rw [hconnections]; rfl
  case unmet => exact fun _ _ => ⟨rfl, rfl⟩
  case last => exact fun _ => .nil
  case rest => exact fun _ => ⟨[], rfl, by rw [hconnections]; exact nofun⟩
  case pongs_eq => rw [hconnections]; exact nofun
  case isSettled => rw [hconnections]; exact nofun
  case isOpen => rw [hconnections]; exact nofun

/-- **The table holds the sessions that were let in and have not ended.**  Whatever happens to a
host, in whatever order, all of `KeepsSessions` holds, as long as no two sessions are given the same
identifier. -/
theorem after_keepsSessions {config : BridgeConfig} {creator : Creator} {s : Surroundings}
    {host host' : Host} (hstart : start config creator s host = (host', .ok b))
    (hinj : Function.Injective s.freshSessions) (ts : List Turn) : b.KeepsSessions ts :=
  keepsSessions_of_keeps (keeps_of_start hstart hinj) ts

/-- Identifiers of sessions, told apart by their length. -/
def tallySession (n : ℕ) : SessionId := ⟨String.ofList (List.replicate n 's')⟩

lemma tallySession_injective : Function.Injective tallySession := by
  intro m n h
  have hlength := congrArg (·.text.toList.length) h
  simpa [tallySession] using hlength

/-- A host that has just started, and asks for a token. -/
def guarded : BridgeHost where
  port := 1
  token := "key"
  heartbeatMs := some 30000
  creator := ofTwo.creator
  freshSessions := tallySession
  host := Host.note {} [.bridge .info ("Bridge host listening on " ++ addressText 1)]

/-- The head of a request to upgrade for a target. -/
def requestHead (target : String) : ByteArray :=
  ("GET " ++ target ++ " HTTP/1.1\r\nconnection: upgrade\r\nupgrade: websocket\r\n" ++
    "sec-websocket-version: 13\r\nsec-websocket-key: a\r\n\r\n").toUTF8

/-- A webview that presents the token, another that presents a wrong one first, and what the former
sends. -/
def visits : List Turn :=
  [.greet .loopback (requestHead "/?token=key") 1,
    .greet .loopback (requestHead "/?token=lock&token=key") 1,
    .receive (tallySession 0)
      [.other,
        .text "\x7b\"messageId\":\"m\",\"destination\":\"settings\",\"messageType\":\"pong\"\x7d"]]

/-- The webview with the wrong token has no session, and the pong of the other is counted. -/
theorem after_keepsSessions_visits :
    Function.Injective tallySession ∧ guarded.KeepsSessions visits ∧
      (guarded.after visits).sessionCount = 1 ∧ (guarded.after visits).pongsReceived = 1 := by
  have hstart : start { host := { port := 1, authToken := some "key" } } ofTwo.creator
      ⟨.ok, "", tallySession⟩ {} = (guarded.host, .ok guarded) := rfl
  exact ⟨tallySession_injective, after_keepsSessions hstart tallySession_injective visits,
    by decide +kernel⟩

end BridgeHost

end WebviewBridge
