import Mathlib.Tactic.Lemma
import Mathlib.Tactic.SplitIfs
import WebviewBridge.Host.Router

/-!
# What frames ask for

A frame asks a host for one thing, its `Demand`, which its destination and its type decide.  A
message that is no pong goes to the handler of its demand (`Creator.route_eq`).
-/

namespace WebviewBridge

open Json

/-- The content of a message, or what is wrong with it. -/
def OutgoingMessage.content {α : Type} (m : OutgoingMessage)
    (decode : Value → Except Cause α) : Except HostError α :=
  (decodePayload decode m.messageType m.payload).mapError .protocol

lemma OutgoingMessage.content_eq_ok_iff {α : Type} {m : OutgoingMessage}
    {decode : Value → Except Cause α} {a : α} :
    m.content decode = .ok a ↔ decode (m.payload.getD .null) = .ok a := by
  rw [content, decodePayload]
  cases decode (m.payload.getD .null) with
  | error cause => exact ⟨nofun, nofun⟩
  | ok a' => exact ⟨fun h => by cases h; rfl, fun h => by cases h; rfl⟩

/-- What a frame asks of a host. -/
inductive Demand where
  /-- The frame is no message. -/
  | unreadable
  | pong
  | tokens
  | update (content : Except HostError AccountTokens)
  | draft (content : Except HostError (List ChatMessage))
  | idea (content : Except HostError SubmitIdea)
  | close
  /-- The destination does not know the type. -/
  | unknown

/-- What a message asks for: its type says so, and for all types but one its destination. -/
def OutgoingMessage.demand (m : OutgoingMessage) : Demand :=
  if m.messageType = Kind.pong.messageType then .pong
  else
    match m.destination with
    | .settings =>
      if m.messageType = Kind.tokensRequest.messageType then .tokens
      else if m.messageType = Kind.updateCredentials.messageType then
        .update (m.content AccountTokens.decode)
      else .unknown
    | .creator =>
      if m.messageType = Kind.processLlm.messageType then
        .draft (m.content ChatMessage.decodeRequest)
      else if m.messageType = Kind.submitIdea.messageType then .idea (m.content SubmitIdea.decode)
      else if m.messageType = Kind.close.messageType then .close
      else .unknown

/-- What a message looks like that asks for something. -/
def OutgoingMessage.Asks (m : OutgoingMessage) : Demand → Prop
  | .unreadable => False
  | .pong => m.messageType = Kind.pong.messageType
  | .tokens => m.destination = .settings ∧ m.messageType = Kind.tokensRequest.messageType
  | .update content =>
    m.destination = .settings ∧ m.messageType = Kind.updateCredentials.messageType ∧
      content = m.content AccountTokens.decode
  | .draft content =>
    m.destination = .creator ∧ m.messageType = Kind.processLlm.messageType ∧
      content = m.content ChatMessage.decodeRequest
  | .idea content =>
    m.destination = .creator ∧ m.messageType = Kind.submitIdea.messageType ∧
      content = m.content SubmitIdea.decode
  | .close => m.destination = .creator ∧ m.messageType = Kind.close.messageType
  | .unknown => m.messageType ≠ Kind.pong.messageType

/-- A message looks like what it asks for. -/
lemma OutgoingMessage.asks_demand (m : OutgoingMessage) : m.Asks m.demand := by
  rw [demand]
  by_cases hpong : m.messageType = Kind.pong.messageType
  · rw [if_pos hpong]
    exact hpong
  · rw [if_neg hpong]
    cases hd : m.destination with
    | creator =>
      simp only
      split_ifs with hdraft hidea hclose
      · exact ⟨hd, hdraft, rfl⟩
      · exact ⟨hd, hidea, rfl⟩
      · exact ⟨hd, hclose⟩
      · exact hpong
    | settings =>
      simp only
      split_ifs with htokens hupdate
      · exact ⟨hd, htokens⟩
      · exact ⟨hd, hupdate, rfl⟩
      · exact hpong

namespace OutgoingMessage

variable {m : OutgoingMessage}

lemma demand_of_pong (hpong : m.messageType = Kind.pong.messageType) : m.demand = .pong := by
  rw [demand, if_pos hpong]

/-- A message asks for something that a handler knows how to meet, unless it is a pong. -/
lemma demand_of_not_pong (hpong : m.messageType ≠ Kind.pong.messageType) :
    m.demand ≠ .unreadable ∧ m.demand ≠ .pong := by
  have hasks := m.asks_demand
  constructor <;> intro hd <;> rw [hd] at hasks
  · exact hasks
  · exact hpong hasks

end OutgoingMessage

/-- What the text of a frame asks for. -/
def Demand.ofText (text : String) : Demand :=
  match OutgoingMessage.parse text with
  | .ok m => m.demand
  | .error _ => .unreadable

lemma Demand.ofText_of_ok {text : String} {m : OutgoingMessage}
    (hm : OutgoingMessage.parse text = .ok m) : ofText text = m.demand := by
  rw [ofText, hm]

lemma Demand.ofText_of_error {text : String} {r : Refusal}
    (hr : OutgoingMessage.parse text = .error r) : ofText text = .unreadable := by
  rw [ofText, hr]

/-! ## Handlers -/

/-- The handler of a demand. -/
def Creator.meet (c : Creator) (m : OutgoingMessage) : Demand → Handling Unit
  | .unreadable | .pong => pure ()
  | .tokens => Settings.answerTokens m
  | .update content => do Settings.updateTokens m (← Handling.ofExcept content)
  | .draft content => do c.draft m (← Handling.ofExcept content)
  | .idea content => do c.submit (← Handling.ofExcept content)
  | .close => Creator.changeState .overlayClosed
  | .unknown =>
    Handling.log .warn
      ("Ignoring unknown " ++ m.destination.name ++ " message type: " ++ m.messageType)

/-- A message that is no pong goes to the handler of what it asks for. -/
theorem Creator.route_eq (c : Creator) {m : OutgoingMessage}
    (hpong : m.messageType ≠ Kind.pong.messageType) : c.route m = c.meet m m.demand := by
  rw [route, OutgoingMessage.demand, if_neg hpong]
  cases hd : m.destination with
  | creator =>
    simp only [handle]
    split_ifs
    · rfl
    · rfl
    · rfl
    · rw [meet, hd]
      rfl
  | settings =>
    simp only [Settings.handle]
    split_ifs
    · rfl
    · rfl
    · rw [meet, hd]
      rfl

/-! ## The state -/

namespace Demand

/-- The mode that the creator is set to. -/
def mode? : Demand → Option CreatorState
  | close => some .overlayClosed
  | idea (.ok _) => some .overlayClosedCreatorActive
  | _ => none

lemma ne_overlayOpen_of_mode?_eq {d : Demand} {x : CreatorState} (hx : d.mode? = some x) :
    x ≠ .overlayOpen := by
  cases d with
  | idea content =>
    cases content with
    | error e => cases hx
    | ok idea =>
      cases hx
      exact nofun
  | close =>
    cases hx
    exact nofun
  | _ => cases hx

/-- The tokens that replace the stored ones. -/
def update? : Demand → Option AccountTokens
  | update (.ok t) => some t
  | _ => none

/-- The state once a demand was met. -/
def stateAfter (d : Demand) (st : HostState) : HostState :=
  { creator := d.mode?.getD st.creator
    credentials := (d.update?.map Credentials.ofWire).getD st.credentials }

end Demand

end WebviewBridge
