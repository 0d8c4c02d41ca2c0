import WebviewBridge.Proofs.Messenger.Pings

/-!
# The line between a webview and its host

A line is a webview with an open connection, and the frames that are on their way in both
directions.  The webview asks something of its messenger, stops waiting for a request, lets time
pass, writes the first frame of its queue, and takes in the first frame that comes down the line.

Main statements: on the line of a plain messenger pings become pongs, one each, and none of both is
lost or made by anything else (`Line.IsPlain.balance_move`); all that comes of a ping is a pong
(`Line.IsPlain.deliver_of_ping`).
-/

namespace WebviewBridge

open Json

/-! ## The connection of a plain messenger -/

namespace WebviewConnection

variable {c : WebviewConnection}

/-- What a messenger has posted meanwhile goes into the queue. -/
lemma withMessenger_eq {α : Type} {f : Messenger → Messenger × α} {new : List Event}
    (hhistory : (f c.messenger).1.history = c.messenger.history ++ new) :
    (c.withMessenger f).1 =
      { c with messenger := (f c.messenger).1, outbound := c.outbound ++ postedFrames new } := by
  rw [withMessenger]
  simp only [hhistory, List.drop_left]

/-- Among the texts of messages that are no pongs there is no pong. -/
lemma isPong_of_mem_postedFrames {new : List Event}
    (hnew : ∀ x, .posted x ∈ new → x.messageType ≠ Kind.pong.messageType) :
    ∀ text ∈ postedFrames new, (Frame.text text).isPong = false := by
  intro text htext
  obtain ⟨e, he, hwire⟩ := List.mem_filterMap.1 htext
  cases e with
  | posted x =>
    rw [← Option.some.inj hwire]
    exact OutgoingMessage.isPong_wire_of_ne (hnew x he)
  | _ => cases hwire

/-- What a plain messenger does puts no pong into the queue. -/
lemma exists_withMessenger {α : Type} {f : Messenger → Messenger × α}
    (h : c.messenger.Goes (f c.messenger).1) :
    ∃ posted, (c.withMessenger f).1 =
        { c with messenger := (f c.messenger).1, outbound := c.outbound ++ posted } ∧
      ∀ text ∈ posted, (Frame.text text).isPong = false := by
  obtain ⟨new, hhistory, hposted, -⟩ := h.history
  exact ⟨postedFrames new, withMessenger_eq hhistory, isPong_of_mem_postedFrames hposted⟩

/-- To take in a ping is to put a pong into the queue, and then to go on with what was left to be
done before. -/
lemma exists_receive_of_ping (hreading : c.reading = true) (hm : c.messenger.IsPlain)
    {x : IncomingMessage} {text : String} (hparse : IncomingMessage.parse text = .ok x)
    (hx : x.messageType = Kind.ping.messageType) :
    ∃ later, c.receive (.text text) =
        { c with
          messenger := c.messenger.answer x
          outbound := c.outbound ++ c.messenger.pong.wire :: later } ∧
      (∀ text ∈ later, (Frame.text text).isPong = false) ∧
      (c.messenger.answer x = c.messenger.echo x → later = []) := by
  obtain ⟨new, hhistory, hposted, -⟩ := (hm.goes_answer x).history
  refine ⟨postedFrames new, ?_, isPong_of_mem_postedFrames hposted, fun hidle => ?_⟩
  · have hact := hm.act_frame_of_ping hparse hx
    have hall : (c.messenger.act (.frame text)).1.history =
        c.messenger.history ++ ([.arrived x, .posted c.messenger.pong] ++ new) := by
      rw [hact, hhistory, ← List.append_assoc]
      rfl
    have heq := withMessenger_eq (f := (·.act (.frame text))) hall
    rw [receive, if_pos hreading]
    rw [hact] at heq
    exact heq
  · rw [hidle] at hhistory
    rw [List.self_eq_append_right.1 hhistory]
    rfl

end WebviewConnection

/-! ## Lines -/

/-- A webview, and the frames on their way between it and the host. -/
structure Line where
  webview : WebviewConnection
  /-- The frames that the webview has written and the host has not taken in, oldest first. -/
  rising : List String := []
  /-- The frames that were sent to the webview and that it has not taken in, oldest first. -/
  falling : List String := []

namespace Line

/-- Something that happens at the webview's end of a line. -/
inductive Move where
  /-- The webview asks something of its messenger. -/
  | begin (o : Operation)
  | abandon (id : MessageId)
  /-- Time passes. -/
  | wait (ms : ℕ)
  /-- The webview writes the first frame of its queue. -/
  | write
  /-- The webview takes in the first frame that comes to it. -/
  | deliver

/-- Lets the messenger of the webview do something. -/
def operate {α : Type} (l : Line) (f : Messenger → Messenger × α) : Line :=
  { l with webview := (l.webview.withMessenger f).1 }

/-- The first frame that comes to the webview is taken in. -/
def deliver (l : Line) : Line :=
  match l.falling with
  | [] => l
  | f :: rest => { l with webview := l.webview.receive (.text f), falling := rest }

/-- The first frame of the queue goes on its way. -/
def write (l : Line) : Line :=
  match l.webview.writing, l.webview.outbound with
  | true, f :: _ => { l with webview := l.webview.write, rising := l.rising ++ [f] }
  | _, _ => l

/-- A line after a move. -/
def move (l : Line) : Move → Line
  | .begin o => l.operate (·.begin o)
  | .abandon id => l.operate fun m => (m.abandon id, ())
  | .wait ms => l.operate fun m => (m.advance ms, ())
  | .write => l.write
  | .deliver => l.deliver

/-- A line on which some frames have reached the host, the first ones that were on their way. -/
def drain (l : Line) (n : ℕ) : Line := { l with rising := l.rising.drop n }

/-- A line on which some more frames are on their way to the webview. -/
def feed (l : Line) (texts : List String) : Line := { l with falling := l.falling ++ texts }

/-- A move in which the webview posts no pong on its own, and takes in no pings but those that come
to it. -/
def Move.IsPlain : Move → Prop
  | begin o => o.IsPlain
  | _ => True

/-- The pings on their way to the webview. -/
def pings (l : Line) : ℕ := l.falling.countP IncomingMessage.isPing

/-- The pongs that the webview has posted, on their way to the host. -/
def pongs (l : Line) : ℕ := (l.webview.outbound ++ l.rising).countP fun f => (Frame.text f).isPong

lemma pongs_drain (l : Line) (n : ℕ) :
    (l.drain n).pongs + ((l.rising.take n).map Frame.text).countP (·.isPong) = l.pongs := by
  have hrising := congrArg (List.countP fun f => (Frame.text f).isPong)
    (List.take_append_drop n l.rising)
  have hcount : ((l.rising.take n).map Frame.text).countP (·.isPong) =
      (l.rising.take n).countP fun f => (Frame.text f).isPong := List.countP_map
  rw [List.countP_append] at hrising
  simp only [drain, pongs, List.countP_append, hcount]
  omega

lemma pings_feed (l : Line) (texts : List String) :
    (l.feed texts).pings = l.pings + texts.countP IncomingMessage.isPing :=
  List.countP_append

/-- A line whose webview is connected and plain, has no news for any request, and has used up none
of the identifiers to come. -/
structure IsPlain (l : Line) : Prop where
  messenger : l.webview.messenger.IsPlain
  prompt : l.webview.messenger.IsPrompt
  distinct : Function.Injective l.webview.messenger.freshIds
  used : ∀ e ∈ l.webview.messenger.history, ∀ id ∈ e.uses,
    ∃ n < l.webview.messenger.issued, id = l.webview.messenger.freshIds n
  reading : l.webview.reading = true
  writing : l.webview.writing = true

namespace IsPlain

variable {l : Line}

/-- The pong that comes next has an identifier that nothing before it had. -/
lemma uses_ne (hl : l.IsPlain) {e : Event} (he : e ∈ l.webview.messenger.history) :
    e.uses ≠ some l.webview.messenger.pong.id := by
  intro huses
  obtain ⟨n, hn, hfresh⟩ := hl.used e he _ huses
  exact Nat.ne_of_gt hn (hl.distinct hfresh)

lemma drain (hl : l.IsPlain) (n : ℕ) : (l.drain n).IsPlain :=
  ⟨hl.messenger, hl.prompt, hl.distinct, hl.used, hl.reading, hl.writing⟩

lemma feed (hl : l.IsPlain) (texts : List String) : (l.feed texts).IsPlain :=
  ⟨hl.messenger, hl.prompt, hl.distinct, hl.used, hl.reading, hl.writing⟩

/-- A line whose messenger goes on. -/
lemma of_goes (hl : l.IsPlain) {m : Messenger} (hm : l.webview.messenger.Goes m)
    (hprompt : m.IsPrompt) (outbound rising falling : List String) :
    IsPlain ⟨{ l.webview with messenger := m, outbound }, rising, falling⟩ where
  messenger := hm.isPlain
  prompt := hprompt
  distinct := by
    change Function.Injective m.freshIds
    rw [hm.freshIds_eq]
    exact hl.distinct
  used := by
    obtain ⟨new, hhistory, -, huses⟩ := hm.history
    intro e he id hid
    change e ∈ m.history at he
    rw [hhistory] at he
    change ∃ n < m.issued, id = m.freshIds n
    rw [hm.freshIds_eq]
    rcases List.mem_append.1 he with he | he
    · obtain ⟨n, hn, hfresh⟩ := hl.used e he id hid
      exact ⟨n, Nat.lt_of_lt_of_le hn hm.issued_le, hfresh⟩
    · exact huses e he id hid
  reading := hl.reading
  writing := hl.writing

/-- What a plain messenger does changes nothing about the pings and pongs on a line. -/
lemma operate {α : Type} (hl : l.IsPlain) {f : Messenger → Messenger × α}
    (hf : l.webview.messenger.Goes (f l.webview.messenger).1)
    (hprompt : (f l.webview.messenger).1.IsPrompt) :
    (l.operate f).IsPlain ∧ (l.operate f).pings = l.pings ∧ (l.operate f).pongs = l.pongs := by
  obtain ⟨posted, heq, hposted⟩ := WebviewConnection.exists_withMessenger hf
  have hnone : posted.countP (fun f => (Frame.text f).isPong) = 0 :=
    List.countP_eq_zero.2 fun text htext => Bool.eq_false_iff.1 (hposted text htext)
  rw [Line.operate, heq]
  refine ⟨hl.of_goes hf hprompt _ _ _, rfl, ?_⟩
  simp only [pongs, List.countP_append, hnone, Nat.add_zero]

/-- A frame that is written is still on its way. -/
lemma write (hl : l.IsPlain) :
    l.write.IsPlain ∧ l.write.pings = l.pings ∧ l.write.pongs = l.pongs := by
  rw [Line.write]
  split
  · rename_i f rest hwriting houtbound
    have hwrite : l.webview.write =
        { l.webview with outbound := rest, written := l.webview.written ++ [f] } := by
      simp only [WebviewConnection.write, hwriting, houtbound]
    rw [hwrite]
    refine ⟨⟨hl.messenger, hl.prompt, hl.distinct, hl.used, hl.reading, hl.writing⟩, rfl, ?_⟩
    simp only [pongs, houtbound, List.countP_append, List.countP_cons, List.countP_nil]
    omega
  · exact ⟨hl, rfl, rfl⟩

/-- A line whose messenger has answered a ping. -/
lemma echo (hl : l.IsPlain) (x : IncomingMessage) :
    IsPlain { l with webview := { l.webview with messenger := l.webview.messenger.echo x } } where
  messenger := hl.messenger.echo x
  prompt := hl.prompt
  distinct := hl.distinct
  used := by
    intro e he id hid
    rcases List.mem_append.1 he with he | he
    · obtain ⟨n, hn, hfresh⟩ := hl.used e he id hid
      exact ⟨n, Nat.lt_succ_of_lt hn, hfresh⟩
    · rcases List.mem_cons.1 he with rfl | he
      · cases hid
      · rw [List.mem_singleton.1 he] at hid
        cases hid
        exact ⟨_, Nat.lt_succ_self _, rfl⟩
  reading := hl.reading
  writing := hl.writing

/-- **All that comes of a ping is a pong.**  The first frame that comes to a webview, a ping, makes
it post one pong, before it goes on with what was left to be done; if that is nothing, then all else
is as it was. -/
theorem deliver_of_ping (hl : l.IsPlain) {f : String} {rest : List String}
    (hfalling : l.falling = f :: rest) {x : IncomingMessage}
    (hparse : IncomingMessage.parse f = .ok x) (hx : x.messageType = Kind.ping.messageType) :
    ∃ later, l.deliver = { l with
        webview := { l.webview with
          messenger := l.webview.messenger.answer x
          outbound := l.webview.outbound ++ l.webview.messenger.pong.wire :: later }
        falling := rest } ∧
      (∀ text ∈ later, (Frame.text text).isPong = false) ∧
      (l.webview.messenger.agenda = [] →
        l.webview.messenger.answer x = l.webview.messenger.echo x ∧ later = []) := by
  obtain ⟨later, heq, hlater, hidle⟩ :=
    WebviewConnection.exists_receive_of_ping hl.reading hl.messenger hparse hx
  refine ⟨later, ?_, hlater, fun hagenda => ?_⟩
  · simp only [deliver, hfalling, heq]
  · have hecho := Messenger.answer_of_idle hagenda hl.prompt x
    exact ⟨hecho, hidle hecho⟩

/-- A frame that is no ping is taken in without a pong. -/
lemma deliver_of_isPing_eq_false (hl : l.IsPlain) {f : String} {rest : List String}
    (hfalling : l.falling = f :: rest) (hf : IncomingMessage.isPing f = false) :
    l.deliver.IsPlain ∧ l.deliver.pings = l.pings ∧ l.deliver.pongs = l.pongs := by
  have hgoes := hl.messenger.goes_act (.frame hf)
  have hprompt : (l.webview.messenger.act (.frame f)).1.IsPrompt := Messenger.isPrompt_conclude _
  obtain ⟨hplain, -, hpongs⟩ := hl.operate (f := (·.act (.frame f))) hgoes hprompt
  have hdeliver : l.deliver = { l.operate (·.act (.frame f)) with falling := rest } := by
    simp only [deliver, hfalling, WebviewConnection.receive, if_pos hl.reading, Line.operate]
  rw [hdeliver]
  generalize l.operate (·.act (.frame f)) = l' at hplain hpongs ⊢
  refine ⟨⟨hplain.messenger, hplain.prompt, hplain.distinct, hplain.used, hplain.reading,
    hplain.writing⟩, ?_, hpongs⟩
  rw [pings, pings, hfalling, List.countP_cons_of_neg (Bool.eq_false_iff.1 hf)]

/-- A pong of the messenger is read as one. -/
lemma isPong_wire_pong (m : Messenger) : (Frame.text m.pong.wire).isPong = true :=
  (OutgoingMessage.isPong_wire (m := m.pong) nofun).trans (decide_eq_true rfl)

/-- A frame that is taken in turns from a ping into a pong, or is no ping. -/
lemma deliver (hl : l.IsPlain) :
    l.deliver.IsPlain ∧ l.deliver.pings + l.deliver.pongs = l.pings + l.pongs := by
  cases hfalling : l.falling with
  | nil =>
    have hdeliver : l.deliver = l := by rw [Line.deliver, hfalling]
    rw [hdeliver]
    exact ⟨hl, rfl⟩
  | cons f rest =>
    by_cases hf : IncomingMessage.isPing f = true
    · obtain ⟨x, hparse, hx⟩ : ∃ x, IncomingMessage.parse f = .ok x ∧
          x.messageType = Kind.ping.messageType := by
        rw [IncomingMessage.isPing] at hf
        cases hparse : IncomingMessage.parse f with
        | error r =>
          rw [hparse] at hf
          cases hf
        | ok x =>
          rw [hparse] at hf
          exact ⟨x, rfl, of_decide_eq_true hf⟩
      obtain ⟨later, heq, hlater, -⟩ := hl.deliver_of_ping hfalling hparse hx
      have hgoes := hl.messenger.goes_answer x
      have hprompt : (l.webview.messenger.answer x).IsPrompt := Messenger.isPrompt_conclude _
      have hnone : later.countP (fun f => (Frame.text f).isPong) = 0 :=
        List.countP_eq_zero.2 fun text htext => Bool.eq_false_iff.1 (hlater text htext)
      rw [heq]
      refine ⟨(hl.echo x).of_goes hgoes hprompt _ _ _, ?_⟩
      simp only [pings, pongs, hfalling, List.countP_append, List.countP_cons, hf, hnone,
        isPong_wire_pong, if_true]
      omega
    · obtain ⟨hplain, hpings, hpongs⟩ :=
        hl.deliver_of_isPing_eq_false hfalling (eq_false_of_ne_true hf)
      exact ⟨hplain, by rw [hpings, hpongs]⟩

/-- **On a line pings become pongs, and otherwise there come and go none.** -/
theorem balance_move (hl : l.IsPlain) {v : Move} (hv : v.IsPlain) :
    (l.move v).IsPlain ∧ (l.move v).pings + (l.move v).pongs = l.pings + l.pongs := by
  have hoperate : ∀ {α : Type} {f : Messenger → Messenger × α},
      l.webview.messenger.Goes (f l.webview.messenger).1 →
        (f l.webview.messenger).1.IsPrompt → (l.operate f).IsPlain ∧
          (l.operate f).pings + (l.operate f).pongs = l.pings + l.pongs := by
    intro α f hgoes hprompt
    obtain ⟨hplain, hpings, hpongs⟩ := hl.operate hgoes hprompt
    exact ⟨hplain, by rw [hpings, hpongs]⟩
  cases v with
  | begin o => exact hoperate (hl.messenger.goes_begin hv) (Messenger.isPrompt_begin _ o)
  | abandon id =>
    exact hoperate (f := fun m => (m.abandon id, ())) (hl.messenger.goes_abandon id)
      (hl.prompt.abandon id)
  | wait ms =>
    exact hoperate (f := fun m => (m.advance ms, ())) (hl.messenger.goes_advance ms)
      (Messenger.isPrompt_conclude _)
  | write =>
    obtain ⟨hplain, hpings, hpongs⟩ := hl.write
    exact ⟨hplain, congrArg₂ (· + ·) hpings hpongs⟩
  | deliver => exact hl.deliver

end IsPlain

end Line

end WebviewBridge
