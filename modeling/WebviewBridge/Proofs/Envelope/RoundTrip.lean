import WebviewBridge.Host.Router
import WebviewBridge.Proofs.Json.Admitted
import WebviewBridge.Webview.Connection

/-!
# Envelopes there and back

Each side of a connection writes its messages with its own members in its own order, and reads
those of the other.  What one side writes the other reads as it was
(`IncomingMessage.parse_wire`, `OutgoingMessage.parse_wire`), but for a payload of null, which
arrives as an absent one.  What was read can be written again: it fits into an envelope
(`OutgoingMessage.fits_of_parse`).  Main statement: `envelopes_arrive`, from the queue of one side
to the handler of the other.
-/

namespace WebviewBridge

open Json

/-! ## From the host to a webview -/

namespace IncomingMessage

/-- The members of an envelope fill the fields that it is made of. -/
lemma gathers {m : IncomingMessage} (hm : m.data.Portable 126) :
    layout.Gathers 126 {} m.members
      { messageType := some m.messageType, data := some m.data
        id := m.id.map fun id => some id.text } := by
  obtain ⟨messageType, data, id⟩ := m
  have htype := (reads_textValue messageType 126).bind fun x (d : Draft) =>
    { d with messageType := some x }
  have hdata := hm.reads.bind fun x (d : Draft) => { d with data := some x }
  refine .field (f := layout.fields[0]) rfl rfl htype ?_
  refine .field (f := layout.fields[1]) rfl rfl hdata ?_
  cases id with
  | none => exact .nil _
  | some id =>
    have hid := (reads_optionalText id.text 126).bind fun x (d : Draft) =>
      { d with id := some x }
    exact .field (f := layout.fields[2]) rfl rfl hid (.nil _)

/-- A webview reads the message that the host wrote. -/
theorem parse_wire {m : IncomingMessage} (hm : m.data.Portable 126) : parse m.wire = .ok m := by
  have hfinish : layout.finish { messageType := some m.messageType, data := some m.data
                                 id := m.id.map fun id => some id.text } = .ok m := by
    obtain ⟨messageType, data, _ | id⟩ := m <;> rfl
  exact ((gathers hm).reads hfinish).readText (Value.isText_chars _)

end IncomingMessage

/-! ## From a webview to the host -/

namespace OutgoingMessage

/-- The message as it arrives: a payload of null is none. -/
def arriving (m : OutgoingMessage) : OutgoingMessage :=
  { m with payload := m.payload.filter fun v => v ≠ .null }

/-- The members of an envelope fill the fields that it is made of. -/
lemma gathers {m : OutgoingMessage} (hm : ∀ v ∈ m.payload, v.Portable 126) :
    layout.Gathers 126 {} m.members
      { id := some m.id.text, destination := some m.destination
        messageType := some m.messageType
        payload := m.payload.map fun v => if v = .null then none else some v } := by
  obtain ⟨id, destination, messageType, payload⟩ := m
  have hid := (reads_textValue id.text 126).bind fun x (d : Draft) =>
    { d with id := some x }
  have hname : Destination.names.lookup destination.name = some destination := by
    cases destination <;> decide
  have hdestination := (reads_nameValue hname 126).bind fun x (d : Draft) =>
    { d with destination := some x }
  have htype := (reads_textValue messageType 126).bind fun x (d : Draft) =>
    { d with messageType := some x }
  refine .field (f := layout.fields[0]) rfl rfl hid ?_
  refine .field (f := layout.fields[1]) rfl rfl hdestination ?_
  refine .field (f := layout.fields[2]) rfl rfl htype ?_
  cases payload with
  | none => exact .nil _
  | some v =>
    have hpayload : Reads (orNull anyValue 126) v (if v = .null then none else some v) := by
      split
      · next hnull => exact hnull ▸ reads_orNull_null anyValue
      · next hne =>
        have hv := hm v rfl
        exact hv.reads.orNull hv.isIntegral hne
    have hkeep := hpayload.bind fun x (d : Draft) => { d with payload := some x }
    exact .field (f := layout.fields[3]) rfl rfl hkeep (.nil _)

/-- The host reads the message that a webview wrote, but for a payload of null. -/
theorem parse_wire {m : OutgoingMessage} (hm : ∀ v ∈ m.payload, v.Portable 126) :
    parse m.wire = .ok m.arriving := by
  refine ((gathers hm).reads ?_).readText (Value.isText_chars _)
  obtain ⟨id, destination, messageType, _ | v⟩ := m
  · rfl
  · by_cases hnull : v = .null
    · subst hnull
      rfl
    · simp only [layout, arriving, required, ok_bind, Option.map_some, Option.join_some,
        Option.filter_some, hnull, ne_eq, not_false_eq_true, decide_true, if_true, if_false]

/-- What was read from an envelope fits into one. -/
theorem fits_of_parse {text : String} {m : OutgoingMessage} (h : parse text = .ok m) :
    ∀ v ∈ m.payload, v.Fits 126 := by
  have hkeeps : layout.Keeps 126 fun d => ∀ v ∈ d.payload.join, v.Fits 126 := by
    refine ⟨?_, nofun⟩
    intro f hf c keep c' hread d hd
    simp only [layout, List.mem_cons, List.not_mem_nil, or_false] at hf
    -- the last field alone is the payload
    rcases hf with rfl | rfl | rfl | rfl <;> obtain ⟨⟨x, c₁⟩, hvalue, hread⟩ := bind_eq_ok hread <;>
      cases hread
    · exact hd
    · exact hd
    · exact hd
    · exact fits_of_orNull hvalue
  obtain ⟨c, hread⟩ := exists_of_readText h
  obtain ⟨d, hd, hfinish⟩ := hkeeps.read nofun hread
  obtain ⟨id, -, hfinish⟩ := bind_eq_ok hfinish
  obtain ⟨destination, -, hfinish⟩ := bind_eq_ok hfinish
  obtain ⟨messageType, -, hfinish⟩ := bind_eq_ok hfinish
  cases hfinish
  exact hd

end OutgoingMessage

/-! ## From queue to handler -/

lemma Messenger.perform_frame {m : IncomingMessage} {text : String}
    (h : IncomingMessage.parse text = .ok m) (n : Messenger) :
    n.perform (.frame text) = n.perform (.receive m) := by
  simp only [perform, h]

lemma Creator.handleFrame_of_parse {m : OutgoingMessage} {text : String}
    (h : OutgoingMessage.parse text = .ok m) (c : Creator) :
    c.handleFrame text = c.handleMessage m := by
  simp only [handleFrame, h]

/-- A message that is handed over to an open connection goes to the end of its queue. -/
lemma WebviewConnection.withMessenger_handOver {k : WebviewConnection}
    (hk : k.messenger.transport = .queue) (m : OutgoingMessage) :
    k.withMessenger (·.handOver m) =
      ({ k with messenger := k.messenger.record (.posted m), outbound := k.outbound ++ [m.wire] },
        [], .ok ()) := by
  have hpost : k.messenger.handOver m = (k.messenger.record (.posted m), [], .ok ()) := by
    rw [Messenger.handOver, hk]
    rfl
  have hnew : postedFrames ((k.messenger.record (.posted m)).history.drop
      k.messenger.history.length) = [m.wire] := by
    rw [Messenger.record, List.drop_left]
    rfl
  simp only [withMessenger, hpost, hnew]

/-- **What one side sends, the other takes in as it was.**  The frame that a host queues for a
message is taken in by any messenger like the message itself, with an identifier or without, and
whatever the content is.  The frame that a webview queues for a message is handled by any host like
the message itself, but a payload of null is none. -/
theorem envelopes_arrive :
    (∀ (m : IncomingMessage) (s : Session) (n : Messenger), m.data.Portable 126 → s.isOpen = true →
      ∃ text, s.send m = ({ s with queue := s.queue ++ [text] }, .ok ()) ∧
        IncomingMessage.parse text = .ok m ∧ n.act (.frame text) = n.act (.receive m)) ∧
    ∀ (m : OutgoingMessage) (k : WebviewConnection) (c : Creator),
      (∀ v ∈ m.payload, v.Portable 126) → k.messenger.transport = .queue →
      ∃ text, (k.withMessenger (·.handOver m)).1.outbound = k.outbound ++ [text] ∧
        OutgoingMessage.parse text = .ok m.arriving ∧
        c.handleFrame text = c.handleMessage m.arriving := by
  constructor
  · intro m s n hm hs
    have hparse := IncomingMessage.parse_wire hm
    refine ⟨m.wire, ?_, hparse, ?_⟩
    · rw [Session.send, if_pos hs]
    · rw [Messenger.act, Messenger.perform_frame hparse, Messenger.act]
  · intro m k c hm hk
    have hparse := OutgoingMessage.parse_wire hm
    refine ⟨m.wire, ?_, hparse, c.handleFrame_of_parse hparse⟩
    rw [WebviewConnection.withMessenger_handOver hk]

/-- A value with an object in an array, the least and the greatest integer, and a key with a quote
arrives both ways. -/
theorem envelopes_arrive_nested :
    let v : Value := .arr [.obj [("\"", .int (-9223372036854775808)), ("a", .null)],
      .int 18446744073709551615]
    let m : IncomingMessage := ⟨"ü\n", v, some ⟨"7"⟩⟩
    let o : OutgoingMessage := ⟨⟨"7"⟩, .settings, "ü\n", some v⟩
    let k := WebviewConnection.connect .settings {} fun n => ⟨toString n⟩
    v.Portable 126 ∧
      (∃ text, (({ id := ⟨"s"⟩ } : Session).send m).1.queue = [text] ∧
        IncomingMessage.parse text = .ok m) ∧
      ∃ text, (k.withMessenger (·.handOver o)).1.outbound = [text] ∧
        OutgoingMessage.parse text = .ok o := by
  intro v m o k
  have hsorted : Members.IsSorted [("\"", .int (-9223372036854775808)), ("a", .null)] := by
    simp only [Members.IsSorted, List.pairwise_cons]
    decide
  have hleast : -(2 : Int).pow 63 ≤ -9223372036854775808 ∧
      (-9223372036854775808 : Int) < UInt64.size := by decide
  have hgreatest : -(2 : Int).pow 63 ≤ 18446744073709551615 ∧
      (18446744073709551615 : Int) < UInt64.size := by decide
  have hv : v.Portable 126 :=
    ⟨⟨⟨⟨hsorted, trivial, trivial, trivial⟩, trivial, trivial⟩, by decide⟩,
      ⟨hleast, trivial, trivial⟩, hgreatest, trivial⟩
  refine ⟨hv, ?_, ?_⟩
  · obtain ⟨text, hsend, hparse, -⟩ := envelopes_arrive.1 m { id := ⟨"s"⟩ } k.messenger hv rfl
    exact ⟨text, by rw [hsend]; rfl, hparse⟩
  · obtain ⟨text, hqueue, hparse, -⟩ := envelopes_arrive.2 o k ⟨fun _ => [], ⟨"data"⟩, 0, none⟩
      (by rintro _ ⟨⟩; exact hv) rfl
    exact ⟨text, hqueue, hparse⟩

end WebviewBridge
