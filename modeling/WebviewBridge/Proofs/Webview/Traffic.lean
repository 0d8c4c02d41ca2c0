import Mathlib.Logic.Function.Basic
import WebviewBridge.Proofs.Host.Pinging
import WebviewBridge.Proofs.Webview.Line

/-!
# Pings and pongs between a host and its webviews

A host and its webviews, with the frames that are on their way between them.  Anything may happen
at any moment: the host lets a peer in, pings, announces something, goes on with a handler, loses a
peer, stops; a webview does something; a frame sets out or arrives.

Every ping that was sent to a session is on its way, or its pong is, or its pong was counted
(`Traffic.Balanced`).  One turn keeps this balance (`Traffic.Balanced.turn`); what can be relied on
after any run is `Traffic.after_echoesPings`.
-/

namespace WebviewBridge

open Json

/-- A host, and the lines that its sessions have, or will have, to their webviews. -/
structure Traffic where
  bridge : BridgeHost
  lines : SessionId → Line

namespace Traffic

/-- Something that happens to a host and its webviews. -/
inductive Turn where
  /-- Something happens to the host. -/
  | host (t : BridgeHost.Turn)
  /-- Something happens at the other end of a line. -/
  | line (id : SessionId) (v : Line.Move)
  /-- Some frames of a webview arrive, the first ones on their way. -/
  | arrive (id : SessionId) (n : ℕ)
  /-- What the host has written to a session goes on its way. -/
  | collect (id : SessionId)

/-- A host that does not make up what a webview sends, nor takes what is meant for it. -/
def IsOwn : BridgeHost.Turn → Prop
  | .receive _ _ | .collect _ => False
  | .lose _ frames => frames = []
  | .announce m => m.messageType = Kind.ping.messageType → m.data.Portable 126
  | _ => True

/-- A turn in which no frame comes from nowhere, and no webview posts a pong on its own. -/
def Turn.IsPlain : Turn → Prop
  | host t => IsOwn t
  | line _ v => v.IsPlain
  | _ => True

variable (s : Traffic)

/-- The frames that arrive from a webview. -/
def arrivals (id : SessionId) (n : ℕ) : List Frame := ((s.lines id).rising.take n).map .text

/-- The lines with another one in one place. -/
def withLine (id : SessionId) (l : Line) : SessionId → Line := Function.update s.lines id l

/-- A host and its webviews after a turn. -/
def turn : Turn → Traffic
  | .host t => { s with bridge := s.bridge.turn t }
  | .line id v => { s with lines := s.withLine id ((s.lines id).move v) }
  | .arrive id n =>
    { bridge := s.bridge.turn (.receive id (s.arrivals id n))
      lines := s.withLine id ((s.lines id).drain n) }
  | .collect id =>
    { bridge := s.bridge.turn (.collect id)
      lines := s.withLine id ((s.lines id).feed (s.bridge.collect id).2) }

/-- A host and its webviews after some turns. -/
def after (s : Traffic) (ts : List Turn) : Traffic := ts.foldl turn s

/-- Whether a ping goes out to a session in a turn. -/
def pinging (id : SessionId) : Turn → ℕ
  | .host t => s.bridge.pinging id t
  | _ => 0

/-- The number of pings that are sent to a session during some turns. -/
def pinged (s : Traffic) (id : SessionId) : List Turn → ℕ
  | [] => 0
  | t :: ts => s.pinging id t + (s.turn t).pinged id ts

/-! ## The balance -/

/-- What holds of a host and its webviews after a run in which some peers were let in, some frames
arrived for each session, and some pings were sent. -/
structure Balanced (s : Traffic) (admitted : List SessionId) (arrived : SessionId → List Frame)
    (sent : SessionId → ℕ) : Prop where
  keeps : ∃ taken stopped, s.bridge.Keeps admitted taken arrived stopped
  isPlain : ∀ id, (s.lines id).IsPlain
  unmet : ∀ id, id ∉ admitted → sent id = 0 ∧ (s.lines id).pings + (s.lines id).pongs = 0
  balance : ∀ k ∈ s.bridge.connections, k.lost = false →
    sent k.id = k.pings + ((s.lines k.id).pings + (s.lines k.id).pongs) +
      (arrived k.id).countP (·.isPong)

namespace Balanced

variable {s} {admitted : List SessionId} {arrived : SessionId → List Frame}
  {sent : SessionId → ℕ}

lemma isPlain_withLine (hs : ∀ id, (s.lines id).IsPlain) {A : SessionId} {l : Line}
    (hl : l.IsPlain) (id : SessionId) : (s.withLine A l id).IsPlain := by
  by_cases hid : id = A
  · rw [hid, withLine, Function.update_self]
    exact hl
  · rw [withLine, Function.update_of_ne hid]
    exact hs id

/-- Something happens to the host, and on the lines of its sessions there is what it is given, less
what it takes. -/
lemma of_host (h : s.Balanced admitted arrived sent) {t : BridgeHost.Turn}
    (ht : ∀ m, t = .announce m → m.messageType = Kind.ping.messageType → m.data.Portable 126)
    {lines : SessionId → Line} (hplain : ∀ id, (lines id).IsPlain)
    (hlines : ∀ id, (s.bridge.connection? id).isSome →
      (lines id).pings + (lines id).pongs + (s.bridge.arriving id t).countP (·.isPong) =
        (s.lines id).pings + (s.lines id).pongs +
          (s.bridge.collecting id t).countP IncomingMessage.isPing)
    (hothers : ∀ id, s.bridge.connection? id = none →
      (lines id).pings + (lines id).pongs ≤ (s.lines id).pings + (s.lines id).pongs) :
    (Traffic.mk (s.bridge.turn t) lines).Balanced (admitted ++ (s.bridge.admits t).toList)
      (fun id => arrived id ++ s.bridge.arriving id t)
      (fun id => sent id + s.bridge.pinging id t) := by
  obtain ⟨taken, stopped, hkeeps⟩ := h.keeps
  have hturn := hkeeps.turn t
  constructor
  case keeps => exact ⟨_, _, hturn⟩
  case isPlain => exact hplain
  case unmet =>
    intro id hid
    have hid' : id ∉ admitted := fun hmem => hid (List.mem_append_left _ hmem)
    obtain ⟨hsent, hline⟩ := h.unmet id hid'
    have hle := hothers id (hkeeps.connection?_eq_none hid')
    refine ⟨?_, by simp only; omega⟩
    simp only [hsent, s.bridge.pinging_eq_zero (hkeeps.connection?_eq_none hid')]
  case balance =>
    intro k' hk' hlost
    change sent k'.id + s.bridge.pinging k'.id t =
      k'.pings + ((lines k'.id).pings + (lines k'.id).pongs) +
        (arrived k'.id ++ s.bridge.arriving k'.id t).countP (·.isPong)
    rw [List.countP_append]
    rcases hkeeps.mem_turn ht hk' with ⟨hadmits, houtbox⟩ | ⟨k, hk, hpasses⟩
    · -- nothing was sent to a new session, and nothing has arrived
      have hnew : k'.id ∉ admitted := by
        have hnodup := hturn.nodup_admitted
        rw [hadmits] at hnodup
        exact fun hmem => (List.nodup_append.1 hnodup).2.2 _ hmem _ (List.mem_singleton.2 rfl) rfl
      obtain ⟨hsent, hline⟩ := h.unmet k'.id hnew
      have hnone := hkeeps.connection?_eq_none hnew
      have hle := hothers k'.id hnone
      have hpings : k'.pings = 0 := by rw [HostConnection.pings, houtbox]; rfl
      have harriving : s.bridge.arriving k'.id t = [] := by
        cases t with
        | greet peer head packets => rfl
        | _ => cases hadmits
      rw [hsent, s.bridge.pinging_eq_zero hnone, hpings, harriving, (hkeeps.unmet k'.id hnew).2,
        List.countP_nil]
      omega
    · have hid := hpasses.id_eq
      obtain ⟨hlost', hpings⟩ := hpasses.pings_eq hlost
      have hconnection : (s.bridge.connection? k'.id).isSome := by
        rw [hid, hkeeps.connection?_eq hk]
        rfl
      have hbalance := h.balance k hk hlost'
      have hline := hlines k'.id hconnection
      rw [← hid] at hbalance
      omega

/-- Something happens at the other end of a line. -/
lemma of_line (h : s.Balanced admitted arrived sent) (A : SessionId) {l : Line} (hl : l.IsPlain)
    (heq : l.pings + l.pongs = (s.lines A).pings + (s.lines A).pongs) :
    ({ s with lines := s.withLine A l } : Traffic).Balanced admitted arrived sent := by
  have hline : ∀ id, ((s.withLine A l) id).pings + ((s.withLine A l) id).pongs =
      (s.lines id).pings + (s.lines id).pongs := by
    intro id
    by_cases hid : id = A
    · rw [hid, withLine, Function.update_self, heq]
    · rw [withLine, Function.update_of_ne hid]
  constructor
  case keeps => exact h.keeps
  case isPlain => exact isPlain_withLine h.isPlain hl
  case unmet =>
    intro id hid
    rw [hline]
    exact h.unmet id hid
  case balance =>
    intro k hk hlost
    rw [hline]
    exact h.balance k hk hlost

/-- Frames of a webview arrive, or are lost when its session has ended. -/
lemma arrive (h : s.Balanced admitted arrived sent) (A : SessionId) (n : ℕ) :
    (s.turn (.arrive A n)).Balanced (admitted ++ [])
      (fun id => arrived id ++ s.bridge.arriving id (.receive A (s.arrivals A n))) sent := by
  have hpongs : ((s.lines A).drain n).pongs + (s.arrivals A n).countP (·.isPong) =
      (s.lines A).pongs := (s.lines A).pongs_drain n
  have hpings : ((s.lines A).drain n).pings = (s.lines A).pings := rfl
  refine h.of_host (t := .receive A (s.arrivals A n)) nofun
    (isPlain_withLine h.isPlain ((h.isPlain A).drain n)) (fun id hid => ?_) fun id hid => ?_
  · by_cases hA : id = A
    · have harriving : s.bridge.arriving A (.receive A (s.arrivals A n)) = s.arrivals A n :=
        if_pos ⟨rfl, hA ▸ hid⟩
      rw [hA, withLine, Function.update_self, harriving, Nat.add_assoc, hpongs, hpings]
      rfl
    · have harriving : s.bridge.arriving id (.receive A (s.arrivals A n)) = [] :=
        if_neg fun hid => hA hid.1.symm
      rw [withLine, Function.update_of_ne hA, harriving]
      rfl
  · by_cases hA : id = A
    · rw [hA, withLine, Function.update_self]
      omega
    · exact Nat.le_of_eq (by rw [withLine, Function.update_of_ne hA])

/-- What was written to a session goes on its way. -/
lemma collect (h : s.Balanced admitted arrived sent) (A : SessionId) :
    (s.turn (.collect A)).Balanced (admitted ++ []) (fun id => arrived id ++ []) sent := by
  have hpings := (s.lines A).pings_feed (s.bridge.collect A).2
  have hpongs : ((s.lines A).feed (s.bridge.collect A).2).pongs = (s.lines A).pongs := rfl
  refine h.of_host (t := .collect A) nofun
    (isPlain_withLine h.isPlain ((h.isPlain A).feed _)) (fun id hid => ?_) fun id hid => ?_
  · by_cases hA : id = A
    · have htaken : s.bridge.collecting A (.collect A) = (s.bridge.collect A).2 := if_pos rfl
      have harriving : s.bridge.arriving A (.collect A) = [] := rfl
      rw [hA, withLine, Function.update_self, htaken, harriving, hpings, hpongs, List.countP_nil]
      omega
    · have htaken : s.bridge.collecting id (.collect A) = [] := if_neg (Ne.symm hA)
      rw [withLine, Function.update_of_ne hA, htaken]
      rfl
  · by_cases hA : id = A
    · have hnothing : (s.bridge.collect A).2 = [] := by
        rw [BridgeHost.collect, ← hA, hid]
      rw [hA, withLine, Function.update_self, hpings, hpongs, hnothing]
      exact Nat.le_refl _
    · exact Nat.le_of_eq (by rw [withLine, Function.update_of_ne hA])

/-- The host does something on its own. -/
lemma host (h : s.Balanced admitted arrived sent) {t : BridgeHost.Turn} (ht : IsOwn t) :
    (s.turn (.host t)).Balanced (admitted ++ (s.bridge.admits t).toList)
      (fun id => arrived id ++ s.bridge.arriving id t)
      (fun id => sent id + s.bridge.pinging id t) := by
  refine h.of_host (by rintro m rfl; exact ht) h.isPlain (fun id _ => ?_) fun _ _ => Nat.le_refl _
  have harriving : s.bridge.arriving id t = [] := by
    cases t with
    | receive A frames => exact ht.elim
    | lose A frames =>
      obtain rfl : frames = [] := ht
      exact ite_self []
    | _ => rfl
  have htaken : s.bridge.collecting id t = [] := by
    cases t with
    | collect A => exact ht.elim
    | _ => rfl
  rw [harriving, htaken]
  rfl

/-- **Every turn keeps the balance.** -/
theorem turn (h : s.Balanced admitted arrived sent) {t : Turn} (ht : t.IsPlain) :
    ∃ admitted' arrived',
      (s.turn t).Balanced admitted' arrived' fun id => sent id + s.pinging id t := by
  cases t with
  | host t => exact ⟨_, _, h.host ht⟩
  | line A v =>
    obtain ⟨hl, heq⟩ := (h.isPlain A).balance_move ht
    exact ⟨_, _, h.of_line A hl heq⟩
  | arrive A n => exact ⟨_, _, h.arrive A n⟩
  | collect A => exact ⟨_, _, h.collect A⟩

/-- Every run keeps the balance. -/
theorem after (h : s.Balanced admitted arrived sent) {ts : List Turn}
    (hts : ∀ t ∈ ts, t.IsPlain) :
    ∃ admitted' arrived',
      (s.after ts).Balanced admitted' arrived' fun id => sent id + s.pinged id ts := by
  induction ts generalizing s admitted arrived sent with
  | nil => exact ⟨_, _, h⟩
  | cons t ts ih =>
    obtain ⟨admitted', arrived', hturn⟩ := h.turn (hts t List.mem_cons_self)
    obtain ⟨admitted'', arrived'', hafter⟩ := ih hturn fun u hu => hts u (List.mem_cons_of_mem t hu)
    simp only [Nat.add_assoc] at hafter
    exact ⟨_, _, hafter⟩

end Balanced

/-! ## What can be relied on -/

/-- The pings on their way to the webview of a session. -/
def pingsInFlight (s : Traffic) (k : HostConnection) : ℕ := k.pings + (s.lines k.id).pings

/-- The pongs on their way from the webview of a session, as far as they are not counted yet. -/
def pongsInFlight (s : Traffic) (k : HostConnection) : ℕ := (s.lines k.id).pongs + k.pongs

/-- What is promised about the pings and pongs of a host and its webviews after some turns. -/
structure EchoesPings (s : Traffic) (ts : List Turn) : Prop where
  /-- Every ping that was sent to a session whose peer is there is on its way, or its pong is, or
  its pong was counted. -/
  balance : ∀ k ∈ (s.after ts).bridge.connections, k.lost = false →
    s.pinged k.id ts =
      (s.after ts).pingsInFlight k + (s.after ts).pongsInFlight k + k.session.pongs
  /-- A ping that a webview takes in, whatever identifier and content it carries, makes it post its
  next pong; no request is resolved by it, nobody is told about it, and it sets nothing off. -/
  echoed : ∀ id x, x.messageType = Kind.ping.messageType →
    ((s.after ts).lines id).webview.messenger.receive x =
      (((s.after ts).lines id).webview.messenger.echo x, [])
  /-- The identifier of that pong was not used by anything posted or requested before. -/
  fresh : ∀ id, ∀ e ∈ ((s.after ts).lines id).webview.messenger.history,
    e.uses ≠ some ((s.after ts).lines id).webview.messenger.pong.id
  /-- A ping that is delivered leaves one pong more in the queue of the webview, in front of what
  the webview posts as it goes on with what was left to be done; if that is nothing, then all else
  is as it was. -/
  delivered : ∀ id f rest x, ((s.after ts).lines id).falling = f :: rest →
    IncomingMessage.parse f = .ok x → x.messageType = Kind.ping.messageType →
    let l := (s.after ts).lines id
    let m := l.webview.messenger
    ∃ later, l.deliver = { l with
        webview := { l.webview with
          messenger := m.answer x
          outbound := l.webview.outbound ++ m.pong.wire :: later }
        falling := rest } ∧
      (∀ text ∈ later, (Frame.text text).isPong = false) ∧
      (m.agenda = [] → m.answer x = m.echo x ∧ later = [])
  /-- A pong that is delivered is counted at once, and nothing else comes of it. -/
  counted : ∀ k ∈ (s.after ts).bridge.connections, k.waiter = none → ∀ f rest,
    ((s.after ts).lines k.id).rising = f :: rest → (Frame.text f).isPong = true →
    ((s.after ts).turn (.arrive k.id 1)).bridge =
      (s.after ts).bridge.put { k with session := k.session.recordPong }
  /-- While a handler waits, a pong that is delivered waits behind what has arrived before. -/
  queued : ∀ k ∈ (s.after ts).bridge.connections, k.waiter.isSome → ∀ f rest,
    ((s.after ts).lines k.id).rising = f :: rest →
    ((s.after ts).turn (.arrive k.id 1)).bridge =
      (s.after ts).bridge.put { k with inbox := k.inbox ++ [.text f] }
  /-- A pong that has waited is counted when its turn comes, and what is behind it is handled as if
  it had not been there. -/
  skipped : ∀ k text, k.session.queue = [] → (Frame.text text).isPong = true →
    ∀ c now rest h, HostConnection.handleAll c now (.text text :: rest) h k =
      HostConnection.handleAll c now rest h { k with session := k.session.recordPong }
  /-- No handler sees a pong. -/
  unrouted : ∀ text, (Frame.text text).isPong = true →
    (s.after ts).bridge.creator.handleFrame text = .perform .recordPong fun _ => .done ()

variable {s}

/-- A pong that arrives is counted, unless a handler waits. -/
lemma receive_of_isPong {b : BridgeHost} {k : HostConnection} (hk : k.IsSettled)
    (hfound : b.connection? k.id = some k) (hw : k.waiter = none) {f : String}
    (hf : (Frame.text f).isPong = true) :
    b.receive k.id [.text f] = b.put { k with session := k.session.recordPong } := by
  have hserve : HostConnection.serve b.creator b.elapsed b.host
      { k with inbox := k.inbox ++ [.text f] } =
        (b.host, { k with session := k.session.recordPong }) := by
    have hcounted := HostConnection.handleAll_of_isPong (k := { k with inbox := [.text f] })
      hk.queue hf b.creator b.elapsed [] b.host
    obtain ⟨hinbox, hlost⟩ := hk.idle hw
    have hended := hk.ended
    rcases k with ⟨session, inbox, waiter, lost, nextPing, outbox, ended⟩
    obtain rfl : waiter = none := hw
    obtain rfl : inbox = [] := hinbox
    obtain rfl : lost = false := hlost
    obtain rfl : ended = false := hended
    exact hcounted
  rw [BridgeHost.receive, BridgeHost.withConnection, hfound]
  simp only [hserve]

/-- A frame that arrives while a handler waits has to wait, too. -/
lemma receive_of_waiting {b : BridgeHost} {k : HostConnection}
    (hfound : b.connection? k.id = some k) (hw : k.waiter.isSome) (f : Frame) :
    b.receive k.id [f] = b.put { k with inbox := k.inbox ++ [f] } := by
  rw [BridgeHost.receive, BridgeHost.withConnection, hfound]
  simp only [HostConnection.serve, hw, if_true]

/-- In a state of balance all promises are kept. -/
theorem echoesPings_of_balanced (h : s.Balanced [] (fun _ => []) fun _ => 0) {ts : List Turn}
    (hts : ∀ t ∈ ts, t.IsPlain) : s.EchoesPings ts := by
  obtain ⟨admitted, arrived, hafter⟩ := h.after hts
  obtain ⟨taken, stopped, hkeeps⟩ := hafter.keeps
  constructor
  case balance =>
    intro k hk hlost
    have hbalance := hafter.balance k hk hlost
    have hpongs := hkeeps.pongs_add_eq hk
    rw [pingsInFlight, pongsInFlight]
    omega
  case echoed => exact fun id x hx => (hafter.isPlain id).messenger.receive_of_ping hx
  case fresh => exact fun id e he => (hafter.isPlain id).uses_ne he
  case delivered =>
    intro id f rest x hfalling hparse hx
    exact (hafter.isPlain id).deliver_of_ping hfalling hparse hx
  case counted =>
    intro k hk hw f rest hrising hf
    rw [turn, arrivals, hrising]
    exact receive_of_isPong (hkeeps.isSettled k hk) (hkeeps.connection?_eq hk) hw hf
  case queued =>
    intro k hk hw f rest hrising
    rw [turn, arrivals, hrising]
    exact receive_of_waiting (hkeeps.connection?_eq hk) hw (.text f)
  case skipped => exact fun k text hqueue htext => HostConnection.handleAll_of_isPong hqueue htext
  case unrouted =>
    exact fun text htext => Creator.handleFrame_of_pong _ (Frame.isPong_text_iff.1 htext)

/-- A host, with a webview for each of the sessions to come. -/
def connecting (b : BridgeHost) (destination : SessionId → Destination)
    (messaging : SessionId → MessagingConfig) (freshIds : SessionId → ℕ → MessageId) : Traffic where
  bridge := b
  lines id := { webview := .connect (destination id) (messaging id) (freshIds id) }

/-- **Every ping is echoed once, and no echo is echoed.**  Whatever a host and its webviews do, in
whatever order, and whenever what they send arrives, all of `EchoesPings` holds, as long as the
webviews post no pong on their own and no identifier is given out twice. -/
theorem after_echoesPings {config : BridgeConfig} {creator : Creator} {surroundings : Surroundings}
    {host host' : Host} {b : BridgeHost}
    (hstart : BridgeHost.start config creator surroundings host = (host', .ok b))
    (hsessions : Function.Injective surroundings.freshSessions)
    (destination : SessionId → Destination) (messaging : SessionId → MessagingConfig)
    (freshIds : SessionId → ℕ → MessageId) (hfresh : ∀ id, Function.Injective (freshIds id))
    {ts : List Turn} (hts : ∀ t ∈ ts, t.IsPlain) :
    (connecting b destination messaging freshIds).EchoesPings ts := by
  refine echoesPings_of_balanced ?_ hts
  have hkeeps := BridgeHost.keeps_of_start hstart hsessions
  constructor
  case keeps => exact ⟨_, _, hkeeps⟩
  case isPlain =>
    intro id
    exact ⟨⟨rfl, nofun, nofun⟩, fun _ => rfl, hfresh id, nofun, rfl, rfl⟩
  case unmet => exact fun _ _ => ⟨rfl, rfl⟩
  case balance =>
    intro k hk
    have hmem : k.id ∈ b.connections.map (·.id) := List.mem_map.2 ⟨k, hk, rfl⟩
    cases (hkeeps.mem_ids_iff.1 hmem).1

/-! ### An exchange -/

/-- Identifiers of messages, told apart by their length. -/
def tallyMessage (n : ℕ) : MessageId := ⟨String.ofList (List.replicate n 'm')⟩

lemma tallyMessage_injective : Function.Injective tallyMessage := by
  intro m n h
  have hlength := congrArg (·.text.toList.length) h
  simpa [tallyMessage] using hlength

/-- A host that has just started, and webviews for its sessions. -/
def waiting : Traffic :=
  connecting BridgeHost.guarded (fun _ => .settings) (fun _ => {}) fun _ => tallyMessage

/-- A webview that has a request pending, and somebody registered for pings, is pinged twice, the
first time with the identifier of the request; it takes in this ping, and the host its answer. -/
def exchange : List Turn :=
  let id := BridgeHost.tallySession 0
  let curious : Action := .register "curious" "ping" none fun _ => [.post "seen" none]
  [.host (.greet .loopback (BridgeHost.requestHead "/?token=key") 1),
    .line id (.begin (.immediate curious)), .line id (.begin (.request "note" none)),
    .host (.announce { messageType := "ping", data := .null, id := some (tallyMessage 0) }),
    .host (.fire (.ping id 30000)), .collect id, .line id .deliver, .line id .write,
    .line id .write, .arrive id 2]

/-- One of two pings is on its way, the pong of the other was counted, and the request is still
pending. -/
theorem after_echoesPings_exchange :
    let id := BridgeHost.tallySession 0
    (∀ t ∈ exchange, t.IsPlain) ∧ waiting.EchoesPings exchange ∧ waiting.pinged id exchange = 2 ∧
      ((waiting.after exchange).lines id).pings = 1 ∧
      ((waiting.after exchange).lines id).webview.messenger.pending.size = 1 ∧
      (waiting.after exchange).bridge.pongsReceived = 1 := by
  intro id
  have hstart : BridgeHost.start { host := { port := 1, authToken := some "key" } }
      BridgeHost.guarded.creator ⟨.ok, "", BridgeHost.tallySession⟩ {} =
        (BridgeHost.guarded.host, .ok BridgeHost.guarded) := rfl
  have hplain : ∀ t ∈ exchange, t.IsPlain := by
    have hseen : ∀ x : IncomingMessage, ∀ a ∈ [Action.post "seen" none], a.IsPlain := by
      intro x a ha
      rw [List.mem_singleton.1 ha]
      exact .post (by decide)
    have hnote : "note" ≠ Kind.pong.messageType := by decide
    simp only [exchange, List.forall_mem_cons]
    exact ⟨trivial, .register hseen, hnote, fun _ => ⟨⟨trivial, Nat.zero_le _⟩, trivial⟩, trivial,
      trivial, trivial, trivial, trivial, trivial, nofun⟩
  exact ⟨hplain, after_echoesPings hstart BridgeHost.tallySession_injective _ _ _
    (fun _ => tallyMessage_injective) hplain, by decide +kernel⟩

end Traffic

end WebviewBridge
