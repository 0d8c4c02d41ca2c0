import Mathlib.Data.List.ReduceOption
import WebviewBridge.Proofs.Messenger.Posting
import WebviewBridge.Proofs.Webview.Line

/-!
# The life of a connection

Three parties share a connection: the webview posts, a writer takes frames from the queue, and a
reader takes in what comes from the host.  They take turns in any order, each of them may stop at
any time, and what a webview or a frame sets off may be left to be done while others take their
turns.

Main statement: in every run the frames written are the first of those that the connection took,
the messenger takes in the texts that come before reading ends and no others, and what closed stays
closed (`WebviewConnection.isFaithful_after_connect`).
-/

namespace WebviewBridge

/-- A messenger that something is done with, or whose transport closes. -/
def Messenger.undergo (m : Messenger) : Option Messenger.Deed → Messenger
  | some d => m.doing d
  | none => m.reroute .closed

@[simp] lemma postedFrames_append (h h' : List Event) :
    postedFrames (h ++ h') = postedFrames h ++ postedFrames h' := List.filterMap_append

namespace WebviewConnection

/-! ## Turns and runs -/

/-- Something that happens to a connection. -/
inductive Turn where
  /-- The webview does something with its messenger. -/
  | deed (d : Messenger.Deed)
  /-- A frame comes in, and all that it sets off is done. -/
  | receive (f : Frame)
  /-- A text comes in; what it sets off is still to be done. -/
  | hear (text : String)
  | readFailed
  | write
  | writeFailed
  | drop

/-- The webview does something with its messenger. -/
def doing (c : WebviewConnection) (d : Messenger.Deed) : WebviewConnection :=
  (c.withMessenger fun m => (m.doing d, ())).1

/-- Takes in a text; what it sets off is still to be done. -/
def hear (c : WebviewConnection) (text : String) : WebviewConnection :=
  if c.reading then c.doing (.turn (.act (.frame text))) else c

/-- A connection after a turn. -/
def turn (c : WebviewConnection) : Turn → WebviewConnection
  | .deed d => c.doing d
  | .receive f => c.receive f
  | .hear text => c.hear text
  | .readFailed => c.readFailed
  | .write => c.write
  | .writeFailed => c.writeFailed
  | .drop => c.drop

/-- A connection after some turns. -/
def after (c : WebviewConnection) (ts : List Turn) : WebviewConnection := ts.foldl turn c

lemma after_append (c : WebviewConnection) (ts us : List Turn) :
    c.after (ts ++ us) = (c.after ts).after us := List.foldl_append

/-- A turn in which the transport is not replaced but by closing the connection. -/
def Turn.IsOwn : Turn → Prop
  | deed d => d.IsOwn
  | _ => True

/-- Whether nothing is read after a turn. -/
def Turn.endsReading : Turn → Bool
  | receive .close | readFailed | drop => true
  | _ => false

/-- What a turn asks of the messenger, while frames are read or when they are not any more. -/
def Turn.deed? (reading : Bool) : Turn → Option Messenger.Deed
  | deed d => some d
  | receive (.text s) => if reading then some (.operate (.immediate (.frame s))) else none
  | hear s => if reading then some (.turn (.act (.frame s))) else none
  | _ => none

/-- What turns ask of the messenger: all that the webview does with it, and the texts that come in
before reading ends. -/
def deeds : Bool → List Turn → List Messenger.Deed
  | _, [] => []
  | reading, t :: ts => (t.deed? reading).toList ++ deeds (reading && !t.endsReading) ts

/-! ## What a run is to be -/

/-- What a connection does for its webview in a run. -/
structure IsFaithful (c : WebviewConnection) (ts : List Turn) : Prop where
  /-- The frames written are the first of those that were posted. -/
  written : (c.after ts).written <+: postedFrames (c.after ts).messenger.history
  /-- While frames are written, those that were posted and not yet written wait in the queue. -/
  waiting : (c.after ts).writing = true →
    (c.after ts).written ++ (c.after ts).outbound = postedFrames (c.after ts).messenger.history
  /-- The messenger does what it is asked to do and takes in the texts that are read, each of them
  once and in this order, while its transport may close in between. -/
  messenger : ∃ steps : List (Option Messenger.Deed),
    (c.after ts).messenger = steps.foldl Messenger.undergo c.messenger ∧
      steps.reduceOption = deeds c.reading ts
  /-- A text that writes no message is passed over. -/
  skipped : ∀ text r, IncomingMessage.parse text = .error r →
    (c.after ts).hear text = c.after ts ∧
      ((c.after ts).messenger.agenda = [] → (c.after ts).messenger.IsPrompt →
        (c.after ts).receive (.text text) = c.after ts)
  /-- Frames are read until the host closes the connection, reading fails or the webview drops the
  connection; nothing else ends this. -/
  reading : (c.after ts).reading = true ↔ ∀ t ∈ ts, t.endsReading = false
  /-- What is open is still read and written. -/
  ends : (c.after ts).isOpen = true → (c.after ts).reading = true ∧ (c.after ts).writing = true
  /-- A post to what is open is taken under the next identifier, and its frame is the last of the
  queue. -/
  taken : (c.after ts).isOpen = true → ∀ t p,
    let m := (c.after ts).messenger
    (m.perform (.post t p)).2.2 = .posted (m.freshIds m.issued) ∧
      (c.after ts).doing (.turn (.act (.post t p))) =
        { c.after ts with
          messenger := m.beginAct (.post t p)
          outbound := (c.after ts).outbound ++ [(m.compose t p).2.wire] }
  /-- What closed stays closed, and takes nothing more. -/
  closed : ∀ us vs, ts = us ++ vs → (c.after us).isOpen = false →
    (c.after ts).isOpen = false ∧
      postedFrames (c.after ts).messenger.history = postedFrames (c.after us).messenger.history
  /-- A post to what closed is refused or dropped, as the policy says, and adds no frame. -/
  refused : (c.after ts).isOpen = false → ∀ t p,
    let posted := (c.after ts).withMessenger (·.begin (.immediate (.post t p)))
    posted.1.written = (c.after ts).written ∧ posted.1.outbound = (c.after ts).outbound ∧
      (c.messenger.policy = .fail →
        posted.2 = .finished (.failed (.transport (.unavailable "bridge connection closed")))) ∧
      (c.messenger.policy = .ignore →
        posted.2 = .finished (.posted
          ((c.after ts).messenger.freshIds (c.after ts).messenger.issued)))

/-! ## What a turn can do -/

/-- What becomes of a connection in a turn that asks something of the messenger, or nothing, and
after which frames are still read, or are not. -/
inductive Becomes (c : WebviewConnection) : Option Messenger.Deed → Bool → WebviewConnection → Prop
  | idle {reading : Bool} (hreading : reading = c.reading) : Becomes c none reading c
  | doing {reading : Bool} (hreading : reading = c.reading) {d : Messenger.Deed} (hd : d.IsOwn) :
      Becomes c (some d) reading (c.doing d)
  | write {reading : Bool} (hreading : reading = c.reading) (hwriting : c.writing = true)
      {f : String} {rest : List String} (houtbound : c.outbound = f :: rest) :
      Becomes c none reading { c with outbound := rest, written := c.written ++ [f] }
  /-- The connection closes.  Frames are still written only if none is lost. -/
  | close {reading still : Bool} (hreading : reading = still) (writing : Bool)
      (outbound : List String)
      (hkept : writing = true → c.writing = true ∧ outbound = c.outbound) :
      Becomes c none reading { c.shut with reading := still, writing, outbound }

variable {c c' : WebviewConnection} {asked : Option Messenger.Deed} {reading : Bool}

lemma Becomes.reading_eq (h : c.Becomes asked reading c') : c'.reading = reading := by
  cases h with
  | idle hreading | doing hreading _ | write hreading _ _ | close hreading _ _ _ =>
    exact hreading.symm

lemma receive_text (c : WebviewConnection) (text : String) :
    c.receive (.text text) =
      if c.reading then c.doing (.operate (.immediate (.frame text))) else c := rfl

/-- Every turn does one of these things. -/
lemma becomes_turn (c : WebviewConnection) {t : Turn} (ht : t.IsOwn) :
    c.Becomes (t.deed? c.reading) (c.reading && !t.endsReading) (c.turn t) := by
  have hon : (c.reading && !false) = c.reading := Bool.and_true _
  have hoff : (c.reading && !true) = false := Bool.and_false _
  cases t with
  | deed d => exact .doing hon ht
  | receive f =>
    cases f with
    | text s =>
      rw [turn, receive_text, Turn.deed?]
      split
      · exact .doing hon trivial
      · exact .idle hon
    | other =>
      rw [turn, receive, ite_self]
      exact .idle hon
    | close =>
      rw [turn, receive]
      split
      · exact .close hoff c.writing c.outbound fun h => ⟨h, rfl⟩
      · exact .idle (hoff.trans (eq_false_of_ne_true ‹_›).symm)
  | hear s =>
    rw [turn, hear, Turn.deed?]
    split
    · exact .doing hon trivial
    · exact .idle hon
  | readFailed =>
    rw [turn, readFailed]
    split
    · exact .close hoff c.writing c.outbound fun h => ⟨h, rfl⟩
    · exact .idle (hoff.trans (eq_false_of_ne_true ‹_›).symm)
  | write =>
    rw [turn, write]
    split
    · rename_i hwriting houtbound
      exact .write hon hwriting houtbound
    · exact .idle hon
  | writeFailed =>
    rw [turn, writeFailed]
    split
    · exact .close hon false _ (by simp)
    · exact .idle hon
  | drop => exact .close hoff false _ (by simp)

/-! ## The account of the frames -/

/-- A connection whose frames are accounted for. -/
structure IsSound (c : WebviewConnection) : Prop where
  transport_eq : c.messenger.transport = if c.isOpen then .queue else .closed
  written : c.written <+: postedFrames c.messenger.history
  waiting : c.writing = true → c.written ++ c.outbound = postedFrames c.messenger.history
  ends : c.isOpen = true → c.reading = true ∧ c.writing = true

namespace IsSound

lemma connect (destination : Destination) (config : MessagingConfig) (freshIds : ℕ → MessageId) :
    (connect destination config freshIds).IsSound :=
  ⟨rfl, List.nil_prefix, fun _ => rfl, fun _ => ⟨rfl, rfl⟩⟩

/-- What the messenger posts goes into the queue, and it posts nothing once the connection is
closed. -/
lemma exists_doing (hc : c.IsSound) {d : Messenger.Deed} (hd : d.IsOwn) :
    ∃ posted, c.doing d =
        { c with messenger := c.messenger.doing d, outbound := c.outbound ++ posted } ∧
      postedFrames (c.messenger.doing d).history =
        postedFrames c.messenger.history ++ posted ∧
      (c.isOpen = false → posted = []) := by
  obtain ⟨new, hhistory, htaken⟩ := (c.messenger.continues_doing hd).history
  refine ⟨postedFrames new, withMessenger_eq hhistory, by rw [hhistory, postedFrames_append], ?_⟩
  intro hclosed
  refine List.filterMap_eq_nil_iff.2 fun e he => ?_
  cases e with
  | posted x =>
    have hposted := htaken x he
    rw [hc.transport_eq, hclosed] at hposted
    cases hposted
  | _ => rfl

lemma doing (hc : c.IsSound) {d : Messenger.Deed} (hd : d.IsOwn) : (c.doing d).IsSound := by
  obtain ⟨posted, heq, hposted, -⟩ := hc.exists_doing hd
  rw [heq]
  constructor
  case transport_eq =>
    exact (c.messenger.continues_doing hd).transport_eq.trans hc.transport_eq
  case written =>
    rw [hposted]
    exact hc.written.trans (List.prefix_append _ _)
  case waiting =>
    intro hwriting
    rw [hposted, ← hc.waiting hwriting, List.append_assoc]
  case ends => exact hc.ends

/-- A turn keeps account of the frames. -/
lemma of_becomes (hc : c.IsSound) (h : c.Becomes asked reading c') : c'.IsSound := by
  cases h with
  | idle _ => exact hc
  | doing _ hd => exact hc.doing hd
  | write _ hwriting houtbound =>
    have hwaiting := hc.waiting hwriting
    rw [houtbound, List.append_cons] at hwaiting
    exact ⟨hc.transport_eq, hwaiting ▸ List.prefix_append _ _, fun _ => hwaiting, hc.ends⟩
  | close _ writing outbound hkept =>
    refine ⟨rfl, hc.written, fun hwriting => ?_, by simp [shut]⟩
    obtain ⟨hwriting', rfl⟩ := hkept hwriting
    exact hc.waiting hwriting'

theorem after (hc : c.IsSound) {ts : List Turn} (hts : ∀ t ∈ ts, t.IsOwn) :
    (c.after ts).IsSound := by
  induction ts generalizing c with
  | nil => exact hc
  | cons t ts ih =>
    obtain ⟨ht, hts⟩ := List.forall_mem_cons.1 hts
    exact ih (hc.of_becomes (c.becomes_turn ht)) hts

/-- No turn opens what is closed, or lets it take a message. -/
lemma closed_of_becomes (hc : c.IsSound) (hclosed : c.isOpen = false)
    (h : c.Becomes asked reading c') : c'.isOpen = false ∧
      postedFrames c'.messenger.history = postedFrames c.messenger.history := by
  cases h with
  | idle _ | write _ _ _ => exact ⟨hclosed, rfl⟩
  | close => exact ⟨rfl, rfl⟩
  | doing _ hd =>
    obtain ⟨posted, heq, hposted, hnone⟩ := hc.exists_doing hd
    rw [hnone hclosed, List.append_nil] at hposted
    rw [heq]
    exact ⟨hclosed, hposted⟩

theorem after_of_closed (hc : c.IsSound) (hclosed : c.isOpen = false) {ts : List Turn}
    (hts : ∀ t ∈ ts, t.IsOwn) : (c.after ts).isOpen = false ∧
      postedFrames (c.after ts).messenger.history = postedFrames c.messenger.history := by
  induction ts generalizing c with
  | nil => exact ⟨hclosed, rfl⟩
  | cons t ts ih =>
    obtain ⟨ht, hts⟩ := List.forall_mem_cons.1 hts
    have hturn := c.becomes_turn ht
    obtain ⟨hclosed', hposted⟩ := hc.closed_of_becomes hclosed hturn
    obtain ⟨hlast, hall⟩ := ih (hc.of_becomes hturn) hclosed' hts
    exact ⟨hlast, hall.trans hposted⟩

/-- A post to a closed connection adds no frame to the queue. -/
lemma outbound_doing_of_closed (hc : c.IsSound) (hclosed : c.isOpen = false) {d : Messenger.Deed}
    (hd : d.IsOwn) : (c.doing d).outbound = c.outbound := by
  obtain ⟨posted, heq, -, hnone⟩ := hc.exists_doing hd
  rw [heq, hnone hclosed]
  exact List.append_nil _

end IsSound

/-! ## What is asked of the messenger -/

lemma reading_after (c : WebviewConnection) {ts : List Turn} (hts : ∀ t ∈ ts, t.IsOwn) :
    (c.after ts).reading = (c.reading && ts.all (!·.endsReading)) := by
  induction ts generalizing c with
  | nil => exact (Bool.and_true _).symm
  | cons t ts ih =>
    obtain ⟨ht, hts⟩ := List.forall_mem_cons.1 hts
    refine (ih (c.turn t) hts).trans ?_
    rw [(c.becomes_turn ht).reading_eq, List.all_cons, Bool.and_assoc]

/-- A turn asks one thing of the messenger, closes its transport, or leaves it alone. -/
lemma Becomes.exists_undergo (h : c.Becomes asked reading c') :
    ∃ steps : List (Option Messenger.Deed),
      c'.messenger = steps.foldl Messenger.undergo c.messenger ∧
        steps.reduceOption = asked.toList := by
  cases h with
  | idle _ | write _ _ _ => exact ⟨[], rfl, rfl⟩
  | doing _ _ => exact ⟨[some _], rfl, rfl⟩
  | close => exact ⟨[none], rfl, rfl⟩

theorem exists_undergo_after (c : WebviewConnection) {ts : List Turn} (hts : ∀ t ∈ ts, t.IsOwn) :
    ∃ steps : List (Option Messenger.Deed),
      (c.after ts).messenger = steps.foldl Messenger.undergo c.messenger ∧
        steps.reduceOption = deeds c.reading ts := by
  induction ts generalizing c with
  | nil => exact ⟨[], rfl, rfl⟩
  | cons t ts ih =>
    obtain ⟨ht, hts⟩ := List.forall_mem_cons.1 hts
    have hturn := c.becomes_turn ht
    obtain ⟨steps, hmessenger, hasked⟩ := hturn.exists_undergo
    obtain ⟨later, hafter, hdeeds⟩ := ih (c.turn t) hts
    refine ⟨steps ++ later, ?_, ?_⟩
    · rw [List.foldl_append, ← hmessenger]
      exact hafter
    · rw [List.reduceOption_append, hasked, hdeeds, hturn.reading_eq, deeds]

/-- What leaves the messenger as it is leaves the connection as it is. -/
lemma doing_of_messenger_eq {d : Messenger.Deed} (hd : c.messenger.doing d = c.messenger) :
    c.doing d = c := by
  have hhistory : (c.messenger.doing d).history = c.messenger.history ++ [] := by
    rw [hd, List.append_nil]
  refine (withMessenger_eq (f := fun m => (m.doing d, ())) hhistory).trans ?_
  simp only [hd, postedFrames, List.filterMap_nil, List.append_nil]

/-- A text that writes no message sets nothing off. -/
lemma hear_of_parse_error (c : WebviewConnection) {text : String} {r : Json.Refusal}
    (hparse : IncomingMessage.parse text = .error r) : c.hear text = c := by
  have hact : c.messenger.doing (.turn (.act (.frame text))) = c.messenger := by
    rw [Messenger.doing, Messenger.turn, Messenger.beginAct, Messenger.perform, hparse]
    rfl
  rw [hear, doing_of_messenger_eq hact, ite_self]

/-- With nothing left to be done, a text that writes no message is passed over. -/
lemma receive_of_parse_error (hidle : c.messenger.agenda = []) (hprompt : c.messenger.IsPrompt)
    {text : String} {r : Json.Refusal} (hparse : IncomingMessage.parse text = .error r) :
    c.receive (.text text) = c := by
  have hact : (c.messenger.act (.frame text)).1 = c.messenger := by
    have hnothing : c.messenger.work Messenger.patience = c.messenger := by
      change Messenger.work (Messenger.patience - 1 + 1) c.messenger = c.messenger
      rw [Messenger.work, if_pos (List.isEmpty_iff.2 hidle)]
    rw [Messenger.act, Messenger.perform, hparse]
    change (c.messenger.work Messenger.patience).conclude = c.messenger
    rw [hnothing, hprompt.conclude_eq]
  have hdeed : c.messenger.doing (.operate (.immediate (.frame text))) = c.messenger := hact
  rw [receive_text, doing_of_messenger_eq hdeed, ite_self]

/-! ## Posts -/

/-- An open queue takes what is posted. -/
lemma perform_post_of_queue {m : Messenger} (hqueue : m.transport = .queue) (t : String)
    (p : Option Json.Value) :
    m.perform (.post t p) = ((m.compose t p).1.record (.posted (m.compose t p).2), [],
      .posted (m.freshIds m.issued)) := by
  have hover : (m.compose t p).1.handOver (m.compose t p).2 =
      ((m.compose t p).1.record (.posted (m.compose t p).2), [], .ok ()) := by
    have htransport : (m.compose t p).1.transport = .queue := hqueue
    rw [Messenger.handOver, htransport]
    rfl
  rw [Messenger.perform, Messenger.post_eq, hover]
  rfl

lemma doing_post_of_queue (hqueue : c.messenger.transport = .queue) (t : String)
    (p : Option Json.Value) :
    c.doing (.turn (.act (.post t p))) =
      { c with
        messenger := c.messenger.beginAct (.post t p)
        outbound := c.outbound ++ [(c.messenger.compose t p).2.wire] } := by
  have hhistory : (c.messenger.beginAct (.post t p)).history =
      c.messenger.history ++ [.posted (c.messenger.compose t p).2] := by
    rw [Messenger.beginAct, perform_post_of_queue hqueue]
    rfl
  exact withMessenger_eq (f := fun m => (m.doing (.turn (.act (.post t p))), ())) hhistory

lemma Becomes.policy_eq (h : c.Becomes asked reading c') :
    c'.messenger.policy = c.messenger.policy := by
  cases h with
  | doing _ hd => exact (c.messenger.continues_doing hd).policy_eq
  | _ => rfl

lemma policy_after (c : WebviewConnection) {ts : List Turn} (hts : ∀ t ∈ ts, t.IsOwn) :
    (c.after ts).messenger.policy = c.messenger.policy := by
  induction ts generalizing c with
  | nil => rfl
  | cons t ts ih =>
    obtain ⟨ht, hts⟩ := List.forall_mem_cons.1 hts
    exact (ih (c.turn t) hts).trans (c.becomes_turn ht).policy_eq

variable (hclosed : c.messenger.transport = .closed) (t : String) (p : Option Json.Value)

include hclosed

lemma snd_begin_post_of_failing (hpolicy : c.messenger.policy = .fail) :
    (c.messenger.begin (.immediate (.post t p))).2 =
      .finished (.failed (.transport (.unavailable "bridge connection closed"))) := by
  have hrefused : (c.messenger.transport.post (c.messenger.compose t p).2).outcome =
      .error (.unavailable "bridge connection closed") := by
    rw [hclosed]
    rfl
  change Call.finished (c.messenger.perform (.post t p)).2.2 = _
  rw [Messenger.snd_perform_post, Messenger.refusal?_of_failing hpolicy hrefused]
  rfl

lemma snd_begin_post_of_ignored (hpolicy : c.messenger.policy = .ignore) :
    (c.messenger.begin (.immediate (.post t p))).2 =
      .finished (.posted (c.messenger.freshIds c.messenger.issued)) := by
  have hrefused : (c.messenger.transport.post (c.messenger.compose t p).2).outcome =
      .error (.unavailable "bridge connection closed") := by
    rw [hclosed]
    rfl
  change Call.finished (c.messenger.perform (.post t p)).2.2 = _
  rw [Messenger.snd_perform_post, Messenger.refusal?_of_ignored hpolicy hrefused rfl]
  rfl

omit hclosed

/-! ## Every run -/

/-- **The life of a connection.**  However those who share a connection take their turns: the frames
written are the first of those that the connection took while it was open, in their order and each
of them once; the messenger takes in the texts that come before reading ends, and no others; and
what closed stays closed, and takes nothing more. -/
theorem isFaithful_after_connect (destination : Destination) (config : MessagingConfig)
    (freshIds : ℕ → MessageId) {ts : List Turn} (hts : ∀ t ∈ ts, t.IsOwn) :
    (connect destination config freshIds).IsFaithful ts := by
  have hstart := IsSound.connect destination config freshIds
  have hsound := hstart.after hts
  constructor
  case written => exact hsound.written
  case waiting => exact hsound.waiting
  case messenger => exact exists_undergo_after _ hts
  case skipped =>
    exact fun text r hparse =>
      ⟨hear_of_parse_error _ hparse,
        fun hidle hprompt => receive_of_parse_error hidle hprompt hparse⟩
  case reading =>
    rw [reading_after _ hts]
    simp [connect]
  case ends => exact hsound.ends
  case taken =>
    intro hopen t p
    have hqueue := hsound.transport_eq
    rw [hopen] at hqueue
    exact ⟨by rw [perform_post_of_queue hqueue], doing_post_of_queue hqueue t p⟩
  case closed =>
    rintro us vs rfl hclosed
    obtain ⟨hus, hvs⟩ := List.forall_mem_append.1 hts
    rw [after_append]
    exact (hstart.after hus).after_of_closed hclosed hvs
  case refused =>
    intro hclosed t p
    have htransport := hsound.transport_eq
    rw [hclosed] at htransport
    have hpolicy := policy_after (connect destination config freshIds) hts
    refine ⟨rfl, ?_, fun hfail => ?_, fun hignore => ?_⟩
    · exact hsound.outbound_doing_of_closed (d := .operate (.immediate (.post t p))) hclosed trivial
    · exact snd_begin_post_of_failing htransport t p (hpolicy.trans hfail)
    · exact snd_begin_post_of_ignored htransport t p (hpolicy.trans hignore)

/-- The webview posts twice, the writer writes one frame, the host closes the connection, and the
webview posts once more. -/
theorem isFaithful_after_connect_closing :
    let ts : List Turn := [.deed (.operate (.immediate (.post "Open" none))),
      .deed (.turn (.act (.post "Close" none))), .write, .receive .other, .receive .close,
      .deed (.operate (.immediate (.post "Open" none)))]
    let c := connect .creator {} Messenger.tallyId
    (∀ t ∈ ts, t.IsOwn) ∧ c.IsFaithful ts ∧ (c.after ts).isOpen = false ∧
      (c.after ts).written.length = 1 ∧ (c.after ts).outbound.length = 1 := by
  have hts : ∀ t ∈ [Turn.deed (.operate (.immediate (.post "Open" none))),
      .deed (.turn (.act (.post "Close" none))), .write, .receive .other, .receive .close,
      .deed (.operate (.immediate (.post "Open" none)))], t.IsOwn := by
    simp [Turn.IsOwn, Messenger.Deed.IsOwn]
  exact ⟨hts, isFaithful_after_connect _ _ _ hts, by decide, by decide, by decide⟩

end WebviewConnection

end WebviewBridge
