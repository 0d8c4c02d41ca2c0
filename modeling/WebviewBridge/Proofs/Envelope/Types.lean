import WebviewBridge.Proofs.Envelope.RoundTrip
import WebviewBridge.Proofs.Host.Reading

/-!
# The type of a message on its way

The type of a message is among the first members of its envelope, and a member that is written
twice is refused.  So whatever the content of a message is, nobody reads another type from its text
than it was written with (`IncomingMessage.messageType_of_parse_wire`,
`OutgoingMessage.messageType_of_parse_wire`).  Main statements: among the texts of a host, webviews
read exactly the pings as pings, and among those of a webview the host reads exactly the pongs as
pongs (`IncomingMessage.isPing_wire`, `OutgoingMessage.isPong_wire`).
-/

namespace WebviewBridge

open Json

namespace IncomingMessage

/-- A text is read with the type that was written, if it is read at all. -/
theorem messageType_of_parse_wire {m x : IncomingMessage} (h : parse m.wire = .ok x) :
    x.messageType = m.messageType := by
  have htype := (reads_textValue m.messageType 126).bind fun x (d : Draft) =>
    { d with messageType := some x }
  have hfirst : layout.Gathers 126 {} [("messageType", .str m.messageType)]
      { messageType := some m.messageType } :=
    .field (f := layout.fields[0]) rfl rfl htype (.nil _)
  obtain ⟨d, hd, hfinish⟩ := hfirst.of_readText (P := (·.messageType = some m.messageType)) rfl
    (by
      intro f hf c keep c' hread d hfound hd
      simp only [layout, List.mem_cons, List.not_mem_nil, or_false] at hf
      rcases hf with rfl | rfl | rfl <;> obtain ⟨⟨y, c₁⟩, -, hread⟩ := bind_eq_ok hread <;>
        cases hread
      · -- the type was found already
        simp only [hd, Option.isSome_some, reduceCtorEq] at hfound
      · exact hd
      · exact hd)
    (by rintro keep ⟨⟩) h
  obtain ⟨messageType, hrequired, hfinish⟩ := bind_eq_ok hfinish
  cases hfinish
  rw [hd] at hrequired
  exact (Except.ok.inj hrequired).symm

/-- Whether a webview reads a text as a ping. -/
def isPing (text : String) : Bool :=
  (parse text).toOption.any (·.messageType = Kind.ping.messageType)

/-- The text of a message that is no ping is not read as one. -/
lemma isPing_wire_of_ne {m : IncomingMessage} (hm : m.messageType ≠ Kind.ping.messageType) :
    isPing m.wire = false := by
  rw [isPing]
  cases h : parse m.wire with
  | error r => rfl
  | ok x =>
    have hx := messageType_of_parse_wire h
    exact decide_eq_false (hx ▸ hm)

/-- Webviews read exactly the pings as pings. -/
theorem isPing_wire {m : IncomingMessage} (hm : m.data.Portable 126) :
    isPing m.wire = decide (m.messageType = Kind.ping.messageType) := by
  rw [isPing, parse_wire hm]
  rfl

end IncomingMessage

namespace OutgoingMessage

/-- A text is read with the type that was written, if it is read at all. -/
theorem messageType_of_parse_wire {m x : OutgoingMessage} (h : parse m.wire = .ok x) :
    x.messageType = m.messageType := by
  have hfirst : layout.Gathers 126 {} { m with payload := none }.members
      { id := some m.id.text, destination := some m.destination
        messageType := some m.messageType } :=
    gathers (m := { m with payload := none }) (by rintro v ⟨⟩)
  obtain ⟨ms, hmembers⟩ : ∃ ms, m.members = { m with payload := none }.members ++ ms := by
    cases hpayload : m.payload with
    | none => exact ⟨[], by rw [List.append_nil, ← hpayload]⟩
    | some v => exact ⟨[("payload", v)], by simp [members, hpayload]⟩
  rw [wire, hmembers] at h
  obtain ⟨d, hd, hfinish⟩ := hfirst.of_readText (P := (·.messageType = some m.messageType)) rfl
    (by
      intro f hf c keep c' hread d hfound hd
      simp only [layout, List.mem_cons, List.not_mem_nil, or_false] at hf
      rcases hf with rfl | rfl | rfl | rfl <;> obtain ⟨⟨y, c₁⟩, -, hread⟩ := bind_eq_ok hread <;>
        cases hread
      · exact hd
      · exact hd
      · -- the type was found already
        simp only [hd, Option.isSome_some, reduceCtorEq] at hfound
      · exact hd)
    (by rintro keep ⟨⟩) h
  obtain ⟨id, -, hfinish⟩ := bind_eq_ok hfinish
  obtain ⟨destination, -, hfinish⟩ := bind_eq_ok hfinish
  obtain ⟨messageType, hrequired, hfinish⟩ := bind_eq_ok hfinish
  cases hfinish
  rw [hd] at hrequired
  exact (Except.ok.inj hrequired).symm

/-- The text of a message that is no pong is not read as one. -/
lemma isPong_wire_of_ne {m : OutgoingMessage} (hm : m.messageType ≠ Kind.pong.messageType) :
    (Frame.text m.wire).isPong = false := by
  rw [Frame.isPong]
  cases h : parse m.wire with
  | error r => rfl
  | ok x =>
    have hx := messageType_of_parse_wire h
    exact decide_eq_false (hx ▸ hm)

/-- The host reads exactly the pongs as pongs. -/
theorem isPong_wire {m : OutgoingMessage} (hm : ∀ v ∈ m.payload, v.Portable 126) :
    (Frame.text m.wire).isPong = decide (m.messageType = Kind.pong.messageType) := by
  rw [Frame.isPong, parse_wire hm]
  rfl

end OutgoingMessage

end WebviewBridge
