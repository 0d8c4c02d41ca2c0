import WebviewBridge.IoError
import WebviewBridge.Json.Printer
import WebviewBridge.Text.Quoted

/-!
# Errors of the bridge

One type of error for each part of the bridge.  Every error has a wording, `message`.

An error of a host may also carry the place in a program that raised it.  Its full text, `display`,
is the wording followed by that place after a blank.  Plan generators tell the places of their
failures.  The bridge's own errors are given without one, because a place is no part of what the
bridge does: it moves with every edit of the program's text.
-/

namespace WebviewBridge

open Json

/-- A place in a program. -/
structure SourceLocation where
  file : String
  line : Nat
  column : Nat
deriving DecidableEq, Repr, Inhabited

namespace SourceLocation

/-- The place in brackets. -/
def display (l : SourceLocation) : String :=
  "[" ++ l.file ++ ":" ++ toString l.line ++ ":" ++ toString l.column ++ "]"

/-- The members of a place in the order in which they are written. -/
def members (l : SourceLocation) : List (String × Value) :=
  [("file", .str l.file), ("line", .nat l.line), ("column", .nat l.column)]

/-- A wording followed by the place that raised it. -/
def after (l : SourceLocation) (message : String) : String := message ++ " " ++ l.display

end SourceLocation

/-- An envelope or a payload that cannot be decoded or encoded. -/
inductive ProtocolError where
  | envelope (message : String)
  | payload (messageType message : String)
  | encode (messageType message : String)
deriving DecidableEq, Repr

/-- The wording of a protocol error. -/
def ProtocolError.message : ProtocolError → String
  | envelope m => "Envelope Decode Error: " ++ m
  | payload t m => "Payload Decode Error for '" ++ t ++ "': " ++ m
  | encode t m => "Payload Encode Error for '" ++ t ++ "': " ++ m

/-- The name of the kind of a protocol error. -/
def ProtocolError.kind : ProtocolError → String
  | envelope _ => "Protocol.Envelope"
  | payload _ _ => "Protocol.Payload"
  | encode _ _ => "Protocol.Encode"

/-- A message that cannot be handed to the host. -/
inductive TransportError where
  /-- The channel to the host is absent or closed. -/
  | unavailable (message : String)
  | encode (message : String)
  | connect (message : String)
deriving DecidableEq, Repr

namespace TransportError

/-- The wording of a transport error. -/
def message : TransportError → String
  | unavailable m => "Transport Unavailable Error: " ++ m
  | encode m => "Transport Encode Error: " ++ m
  | connect m => "Transport Connect Error: " ++ m

/-- The name of the kind of a transport error. -/
def kind : TransportError → String
  | unavailable _ => "Transport.Unavailable"
  | encode _ => "Transport.Encode"
  | connect _ => "Transport.Connect"

/-- Whether the channel is absent or closed. -/
def isUnavailable : TransportError → Bool
  | unavailable _ => true
  | _ => false

end TransportError

/-- Why a messenger gives up on a message. -/
inductive MessengerError where
  /-- No reply came in time. -/
  | timeout (messageType : String) (timeoutMs : Nat)
  | transport (e : TransportError)
  | protocol (e : ProtocolError)
deriving DecidableEq, Repr

namespace MessengerError

/-- The wording of a messenger error. -/
def message : MessengerError → String
  | timeout t ms =>
    "Timeout Error: Message " ++ t ++ " timed out after " ++ toString ms ++ "ms"
  | transport e => e.message
  | protocol e => e.message

/-- The name of the kind of a messenger error; a wrapped error keeps its own. -/
def kind : MessengerError → String
  | timeout _ _ => "Messenger.Timeout"
  | transport e => e.kind
  | protocol e => e.kind

/-- Whether no reply came in time. -/
def isTimeout : MessengerError → Bool
  | timeout _ _ => true
  | _ => false

end MessengerError

/-- What keeps a host from doing what it is asked to. -/
inductive HostFault where
  | handshake (message : String)
  | send (message : String)
  | read (message : String)
  | io (message : String)
  | plan (message : String)
  | state (message : String)
  | cache (path message : String)
  | protocol (e : ProtocolError)
deriving DecidableEq, Repr

namespace HostFault

/-- The wording of a fault. -/
def message : HostFault → String
  | handshake m => "Handshake Error: " ++ m
  | send m => "Send Error: " ++ m
  | read m => "Read Error: " ++ m
  | io m => "IO Error: " ++ m
  | plan m => "Plan Generation Error: " ++ m
  | state m => "State Error: " ++ m
  | cache path m => "Submission Cache Error: " ++ path ++ ": " ++ m
  | protocol e => e.message

/-- The name of the kind of a fault; a wrapped error keeps its own. -/
def kind : HostFault → String
  | handshake _ => "Host.Handshake"
  | send _ => "Host.Send"
  | read _ => "Host.Read"
  | io _ => "Host.Io"
  | plan _ => "Host.Plan"
  | state _ => "Host.State"
  | cache _ _ => "Host.Cache"
  | protocol e => e.kind

end HostFault

/-- Why a host cannot do what it is asked to. -/
structure HostError where
  fault : HostFault
  /-- The place that raised the error, as far as it is told. -/
  place : Option SourceLocation := none
deriving DecidableEq, Repr

namespace HostError

section Kinds

variable (message : String) (place : Option SourceLocation := none)

/-- A connection that cannot be taken up. -/
abbrev handshake : HostError := ⟨.handshake message, place⟩

/-- A message that a session cannot be sent. -/
abbrev send : HostError := ⟨.send message, place⟩

/-- A message of a session that cannot be read. -/
abbrev read : HostError := ⟨.read message, place⟩

/-- Something that the system refuses. -/
abbrev io : HostError := ⟨.io message, place⟩

/-- A plan that cannot be finished. -/
abbrev plan : HostError := ⟨.plan message, place⟩

/-- A command that the keeper of the host's state does not carry out. -/
abbrev state : HostError := ⟨.state message, place⟩

/-- The file of a stored submission, which cannot be read, written or removed. -/
abbrev cache (path message : String) (place : Option SourceLocation := none) : HostError :=
  ⟨.cache path message, place⟩

/-- An error of the protocol, which keeps its own place. -/
abbrev protocol (e : ProtocolError) (place : Option SourceLocation := none) : HostError :=
  ⟨.protocol e, place⟩

end Kinds

/-- The wording of a host error. -/
def message (e : HostError) : String := e.fault.message

/-- The full text of a host error: its wording, followed by its place. -/
def display (e : HostError) : String :=
  match e.place with
  | none => e.message
  | some l => l.after e.message

/-- The name of the kind of a host error. -/
def kind (e : HostError) : String := e.fault.kind

/-- A failure of the system as a host error. -/
def ofIo (e : IoError) : HostError := io e.message

end HostError

/-- Why a configuration cannot be read, written or used. -/
inductive ConfigError where
  | read (path : String) (source : IoError)
  | parse (path reason : String)
  | write (path : String) (source : IoError)
  | serialize (reason : String)
  | validation (reason : String)
  | environment (variableName value reason : String)
deriving DecidableEq, Repr

/-- The wording of a configuration error. -/
def ConfigError.message : ConfigError → String
  | read path source => "Config Read Error: " ++ path ++ ": " ++ source.message
  | parse path reason => "Config Parse Error: " ++ path ++ ": " ++ reason
  | write path source => "Config Write Error: " ++ path ++ ": " ++ source.message
  | serialize reason => "Config Serialization Error: " ++ reason
  | validation reason => "Config Validation Error: " ++ reason
  | environment name value reason =>
    "Config Environment Error: " ++ name ++ "=" ++ Text.quoted value ++ ": " ++ reason

/-- The name of the kind of a configuration error. -/
def ConfigError.kind : ConfigError → String
  | read _ _ => "Config.Read"
  | parse _ _ => "Config.Parse"
  | write _ _ => "Config.Write"
  | serialize _ => "Config.Serialize"
  | validation _ => "Config.Validation"
  | environment _ _ _ => "Config.Environment"

/-- Why the host application gives up. -/
inductive AppError where
  /-- Its own paths, log or startup. -/
  | app (message : String)
  /-- The configuration. -/
  | config (message : String)
  /-- The bridge host. -/
  | bridge (message : String)
deriving DecidableEq, Repr

namespace AppError

/-- The wording of an application error. -/
def message : AppError → String
  | app m => "Nellie Host Error: " ++ m
  | config m => "Config Error: " ++ m
  | bridge m => "Bridge Error: " ++ m

/-- The bare text of the error, without its kind. -/
def text : AppError → String
  | app m | config m | bridge m => m

/-- The kind of the error in its structured form. -/
def tag : AppError → String
  | app _ => "App"
  | config _ => "Config"
  | bridge _ => "Bridge"

/-- The name of the kind of an application error. -/
def kind (e : AppError) : String := "Nellie." ++ e.tag

/-- The structured form of an error, with the place that raised it if that is known. -/
def value (e : AppError) (location : Option SourceLocation) : Value :=
  let place := location.toList.map fun l => ("location", Value.object l.members)
  Value.object [("type", .str e.tag), ("data", Value.object (("message", .str e.text) :: place))]

/-- A configuration error as an application error. -/
def ofConfig (e : ConfigError) : AppError := config e.message

/-- A host error as an application error. -/
def ofHost (e : HostError) : AppError := bridge e.display

end AppError

end WebviewBridge
