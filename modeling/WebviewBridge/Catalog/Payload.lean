import WebviewBridge.Catalog.SubmitIdea
import WebviewBridge.Catalog.Chat
import WebviewBridge.Catalog.Tokens
import WebviewBridge.Error

/-!
# Typed payloads

Every message type that the bridge knows has a typed payload.  `Payload.encode` writes one,
`Kind.decode` reads one of a given kind; payloads without content are written by leaving them out
and read from null.
-/

namespace WebviewBridge

open Json Catalog

/-- The kinds of payload. -/
inductive Kind where
  | submitIdea
  | processLlm
  | close
  | pong
  | tokensRequest
  | tokens
  | updateCredentials
  | ping
  | planStream
  | planCompleted
  | errorNotice
  | tab
  | themeColors
deriving DecidableEq, Repr

/-- The message type under which a kind travels.  The request for tokens and its answer travel
under the same one. -/
def Kind.messageType : Kind → String
  | submitIdea => "SubmitIdea"
  | processLlm => "ProcessLLM"
  | close => "Close"
  | pong => "pong"
  | tokensRequest | tokens => "getPearAuth"
  | updateCredentials => "updateNellieCredentials"
  | ping => "ping"
  | planStream => "planCreationStream"
  | planCompleted => "planCreationCompleted"
  | errorNotice => "error"
  | tab => "tab"
  | themeColors => "themeColors"

namespace Kind

/-- The name of a kind: its message type, or a name of its own if it shares that one. -/
def name : Kind → String
  | tokensRequest => "GetPearAuth"
  | tokens => "PearAuth"
  | k => k.messageType

/-- All kinds of payload. -/
def all : List Kind :=
  [submitIdea, processLlm, close, pong, tokensRequest, tokens, updateCredentials, ping, planStream,
    planCompleted, errorNotice, tab, themeColors]

/-- The kind of a name. -/
def named? (s : String) : Option Kind := all.find? (·.name = s)

end Kind

/-- A typed payload. -/
inductive Payload where
  | submitIdea (s : SubmitIdea)
  | processLlm (messages : List ChatMessage)
  | close
  | pong
  | tokensRequest
  | tokens (t : AccountTokens)
  | updateCredentials (t : AccountTokens)
  | ping
  /-- The plan so far. -/
  | planStream (plan : String)
  | planCompleted (plan : String)
  /-- A failure for a person to read. -/
  | errorNotice (text : String)
  /-- The tab that the settings screen turns to. -/
  | tab (name : String)
  /-- Colours by name, sorted. -/
  | themeColors (colors : List (String × String))
deriving DecidableEq, Repr

namespace Payload

/-- The kind of a payload. -/
def kind : Payload → Kind
  | submitIdea _ => .submitIdea
  | processLlm _ => .processLlm
  | close => .close
  | pong => .pong
  | tokensRequest => .tokensRequest
  | tokens _ => .tokens
  | updateCredentials _ => .updateCredentials
  | ping => .ping
  | planStream _ => .planStream
  | planCompleted _ => .planCompleted
  | errorNotice _ => .errorNotice
  | tab _ => .tab
  | themeColors _ => .themeColors

/-- The message type under which a payload travels. -/
def messageType (p : Payload) : String := p.kind.messageType

/-- The payload as a value; nothing for payloads without content. -/
def encode : Payload → Option Value
  | submitIdea s => some s.encode
  | processLlm ms => some (.obj [("messages", .arr (ms.map ChatMessage.encode))])
  | close | pong | tokensRequest | ping => none
  | tokens t | updateCredentials t => some t.encode
  | planStream p | planCompleted p => some (.obj [("plan", .str p)])
  | errorNotice t => some (.obj [("text", .str t)])
  | tab t => some (.obj [("tab", .str t)])
  | themeColors cs => some (.obj (cs.map fun c => (c.1, .str c.2)))

/-- The payload as the content of a host's message: null when there is nothing. -/
def data (p : Payload) : Value := p.encode.getD .null

/-- The payload as it is written on its own, members in their own order. -/
def text : Payload → String
  | submitIdea s => recordText s.members
  | processLlm ms => recordText [("messages", .arr (ms.map ChatMessage.written))]
  | p => p.data.text

end Payload

namespace Kind

/-- The payload of this kind that a value writes. -/
def decode : Kind → Value → Except Cause Payload
  | submitIdea, v => (SubmitIdea.decode v).map .submitIdea
  | processLlm, v => (ChatMessage.decodeRequest v).map .processLlm
  | close, v => (decodeNull "unit struct CloseOverlay" v).map fun _ => .close
  | pong, v => (decodeNull "unit struct Pong" v).map fun _ => .pong
  | tokensRequest, v => (decodeNull "unit struct GetPearAuth" v).map fun _ => .tokensRequest
  | tokens, v => (AccountTokens.decode v).map .tokens
  | updateCredentials, v => (AccountTokens.decode v).map .updateCredentials
  | ping, v => (decodeNull "unit struct Ping" v).map fun _ => .ping
  | planStream, v => (decodeTextRecord "PlanCreationStream" "plan" v).map .planStream
  | planCompleted, v => (decodeTextRecord "PlanCreationCompleted" "plan" v).map .planCompleted
  | errorNotice, v => (decodeTextRecord "ErrorNotice" "text" v).map .errorNotice
  | tab, v => (decodeTextRecord "SettingsTab" "tab" v).map .tab
  | themeColors, v => (decodeColors v).map .themeColors
where
  /-- Strings by name. -/
  decodeColors : Value → Except Cause (List (String × String))
    | .obj ms => ms.mapM fun m => (decodeText m.2).map fun s => (m.1, s)
    | v => refuse v "a map"

/-- The payload of this kind in a message; an absent payload is read as null. -/
def decodePayload (k : Kind) (payload : Option Value) : Except ProtocolError Payload :=
  match k.decode (payload.getD .null) with
  | .ok p => .ok p
  | .error cause => .error (.payload k.messageType cause.message)

end Kind

/-- Decodes a payload for a message type with a decoder for its content. -/
def decodePayload {α : Type} (decode : Value → Except Cause α) (messageType : String)
    (payload : Option Value) : Except ProtocolError α :=
  match decode (payload.getD .null) with
  | .ok x => .ok x
  | .error cause => .error (.payload messageType cause.message)

end WebviewBridge
