import WebviewBridge.Handshake.Head
import WebviewBridge.Handshake.Sha1
import WebviewBridge.Handshake.Target
import WebviewBridge.Text.Base64

/-!
# Requests to upgrade a connection

A connection starts with the head of a request that asks for an upgrade to WebSocket.  A head that
is incomplete, malformed or asks for something else gets no answer at all; any other is accepted or
turned down for its token.
-/

namespace WebviewBridge

/-- How a host answers a request to upgrade. -/
inductive UpgradeAnswer where
  | accepted
  | unauthorized
deriving DecidableEq, Repr

namespace UpgradeAnswer

/-- The status code of an answer. -/
def status : UpgradeAnswer → Nat
  | accepted => 101
  | unauthorized => 401

/-- The wording of the status. -/
def reason : UpgradeAnswer → String
  | accepted => "Switching Protocols"
  | unauthorized => "Unauthorized"

/-- The first line of an answer. -/
def line (a : UpgradeAnswer) : String := "HTTP/1.1 " ++ toString a.status ++ " " ++ a.reason

/-- The text that follows the head of an answer. -/
def body : UpgradeAnswer → Option String
  | accepted => none
  | unauthorized => some "Invalid authentication token"

/-- The answer to a well-formed request for a target. -/
def ofTarget (token : String) (target : List Char) : UpgradeAnswer :=
  if accepts token target then accepted else unauthorized

end UpgradeAnswer

namespace RequestHead

/-! ## Asking -/

/-- Whether a text is a word, in letters of either case. -/
def isWord (word : String) (text : String) : Bool := text.toLower == word

/-- The greatest number of bytes of a target. -/
def targetLimit : Nat := 65534

/-- Whether the request asks for an upgrade to WebSocket. -/
def asksForUpgrade (h : RequestHead) : Bool :=
  h.method == "GET" && h.version == "HTTP/1.1"
    && h.target.utf8ByteSize ≤ targetLimit && RequestTarget.isWellFormed h.target.toList
    && (h.text? "connection").any (fun v =>
      ((Form.split ',' v.toList).flatMap (Form.split ' ')).any fun w =>
        isWord "upgrade" (String.ofList w))
    && (h.text? "upgrade").any (isWord "websocket")
    && h.text? "sec-websocket-version" == some "13"
    && (h.get? "sec-websocket-key").isSome

/-! ## Arriving -/

/-- The greatest number of bytes that are taken in at a time. -/
def packetLimit : Nat := 4096

/-- Whether bytes are more than a head may have, or came in more or smaller packets than anybody
sends in good faith. -/
def isExcessive (packets bytes : Nat) : Bool :=
  bytes > 65536 || packets > 512 || (packets > 64 && packets * 128 > bytes)

/-- What a host makes of the bytes that have arrived in a number of packets: a request to upgrade,
or the reason why they are none. -/
def ofArrived (packets : Nat) (bytes : List UInt8) : Except Fault RequestHead :=
  if isExcessive packets bytes.length then .error .malformed
  else match parse bytes with
    | .ok h => if h.asksForUpgrade then .ok h else .error .malformed
    | .error e => .error e

/-- The number of packets in which some bytes arrive. -/
def packetsOf (bytes : List UInt8) : Nat := (bytes.length + packetLimit - 1) / packetLimit

/-- The request to upgrade that comes first in some bytes.  They are looked at after each packet,
and what follows a head in the same packet spoils it. -/
def ofStream? (bytes : List UInt8) : Option RequestHead :=
  ((List.range (packetsOf bytes)).findSome? fun k =>
    match ofArrived (k + 1) (bytes.take ((k + 1) * packetLimit)) with
    | .error .incomplete => none
    | decided => some decided).bind (·.toOption)

/-! ## Answering -/

/-- What a key is extended by before its digest is taken. -/
def keySuffix : String := "258EAFA5-E914-47DA-95CA-C5AB0DC85B11"

/-- The proof that the key of a request was read. -/
def acceptKey (key : List UInt8) : String :=
  Base64.encode (Sha1.digest (key ++ Text.encode keySuffix))

/-- Everything that is sent in answer to the request. -/
def response (h : RequestHead) (a : UpgradeAnswer) : String :=
  let headers := match a with
    | .accepted =>
      ["connection: Upgrade", "upgrade: websocket",
        "sec-websocket-accept: " ++ acceptKey ((h.get? "sec-websocket-key").getD [])]
    | .unauthorized => []
  String.join ((a.line :: headers).map (· ++ "\r\n")) ++ "\r\n" ++ a.body.getD ""

/-- The answer of a host with a token to what a peer sends first, if it answers at all. -/
def answer? (token : String) (bytes : List UInt8) : Option UpgradeAnswer :=
  (ofStream? bytes).map fun h => .ofTarget token h.target.toList

end RequestHead

end WebviewBridge
