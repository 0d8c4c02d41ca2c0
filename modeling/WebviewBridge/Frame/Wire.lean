import WebviewBridge.Frame
import WebviewBridge.Text.Utf8

/-!
# Frames on the wire

How frames travel over a connection.  A webview masks the bytes of its frames and may send a
message in several of them; a host does neither.  `Inlet.feed` turns the bytes that arrive into
frames and pings.
-/

namespace WebviewBridge

namespace Wire

/-- What a frame on the wire carries. -/
inductive Opcode where
  /-- More of the message before. -/
  | continuation
  | text
  | binary
  | close
  | ping
  | pong
deriving DecidableEq, Repr

namespace Opcode

/-- The number of an opcode. -/
def number : Opcode → Nat
  | continuation => 0
  | text => 1
  | binary => 2
  | close => 8
  | ping => 9
  | pong => 10

/-- The opcode of a number. -/
def ofNumber? (n : Nat) : Option Opcode :=
  [continuation, text, binary, close, ping, pong].find? (·.number = n)

/-- Whether frames of an opcode may stand between the parts of a message. -/
def isControl (o : Opcode) : Bool := 8 ≤ o.number

end Opcode

/-! ## Writing -/

/-- A number as some bytes, most significant first. -/
def bigEndian (width n : Nat) : List UInt8 :=
  (List.range width).reverse.map fun i => UInt8.ofNat (n / Nat.pow 256 i)

/-- How the number of bytes of a frame is written. -/
def sizeBytes (n : Nat) : List UInt8 :=
  if n < 126 then [UInt8.ofNat n]
  else if n < 65536 then 126 :: bigEndian 2 n
  else 127 :: bigEndian 8 n

/-- A whole message as a frame of the host. -/
def encode (o : Opcode) (payload : ByteArray) : ByteArray :=
  ⟨(UInt8.ofNat (128 + o.number) :: sizeBytes payload.size).toArray⟩ ++ payload

/-- A text as a frame of the host. -/
def encodeText (s : String) : ByteArray := encode .text s.toUTF8

/-! ## Reading -/

/-- What stands before the content of a frame. -/
structure Header where
  /-- Whether the message ends with the frame. -/
  final : Bool
  opcode : Opcode
  mask : List UInt8
  /-- The number of bytes of the header. -/
  start : Nat
  /-- The number of bytes of the content. -/
  size : Nat

/-- The greatest number of bytes of one frame. -/
def frameLimit : Nat := 16 * 1024 * 1024

/-- The number that some bytes write, most significant first. -/
def ofBigEndian (bytes : List UInt8) : Nat := bytes.foldl (fun n b => n * 256 + b.toNat) 0

/-- The number of bytes in which a size is written, after the byte that tells it. -/
def sizeWidth (code : Nat) : Nat := if code = 126 then 2 else if code = 127 then 8 else 0

/-- The header that begins some bytes: nothing while it is not complete, an error if no webview
may send it. -/
def Header.read (bytes : List UInt8) : Except Unit (Option Header) :=
  match bytes with
  | first :: second :: rest =>
    let code := second.toNat % 128
    let width := sizeWidth code
    match Opcode.ofNumber? (first.toNat % 16) with
    | none => .error ()
    | some opcode =>
      let final := 128 ≤ first.toNat
      let size := if width = 0 then code else ofBigEndian (rest.take width)
      if first.toNat / 16 % 8 ≠ 0 ∨ second.toNat < 128 then .error ()
      else if opcode.isControl ∧ (!final ∨ width ≠ 0) then .error ()
      else if rest.length < width + 4 then .ok none
      else if size > frameLimit then .error ()
      else
        .ok (some { final, opcode, size, mask := (rest.drop width).take 4, start := 6 + width })
  | _ => .ok none

/-- Takes the mask off the content of a frame. -/
def unmask (mask : List UInt8) (content : ByteArray) : ByteArray :=
  ⟨content.data.mapIdx fun i b => b ^^^ mask[i % 4]?.getD 0⟩

/-! ## Messages -/

/-- What arrives from a webview. -/
inductive Arrival where
  | frame (f : Frame)
  /-- A ping with its content, which has to be sent back. -/
  | ping (content : ByteArray)

/-- The bytes that arrived on a connection and are not used up. -/
structure Inlet where
  buffer : ByteArray := .empty
  /-- The message that is not complete: whether it is text, and what there is of it. -/
  partly : Option (Bool × ByteArray) := none

namespace Inlet

/-- The greatest number of bytes of one message. -/
def messageLimit : Nat := 64 * 1024 * 1024

/-- The frame of a complete message; an error for a text that is none. -/
def message (isText : Bool) (content : ByteArray) : Except Unit Frame :=
  if !isText then .ok .other
  else
    match Text.decodeStrict? content.toList with
    | some s => .ok (.text s)
    | none => .error ()

/-- Takes in more of a message, which may end with it. -/
def extend (i : Inlet) (final isText : Bool) (content : ByteArray) :
    Except Unit (Inlet × Option Arrival) :=
  if content.size > messageLimit then .error ()
  else if final then
    (message isText content).map fun f => ({ i with partly := none }, some (.frame f))
  else .ok ({ i with partly := some (isText, content) }, none)

/-- Takes in the content of a frame. -/
def accept (i : Inlet) (h : Header) (content : ByteArray) :
    Except Unit (Inlet × Option Arrival) :=
  match h.opcode, i.partly with
  | .close, _ => .ok (i, some (.frame .close))
  | .ping, _ => .ok (i, some (.ping content))
  | .pong, _ => .ok (i, some (.frame .other))
  | .continuation, some (isText, before) => i.extend h.final isText (before ++ content)
  | .text, none => i.extend h.final true content
  | .binary, none => i.extend h.final false content
  | _, _ => .error ()

/-- What the bytes of the buffer bring, in order, and whether a webview may send them all.  Every
frame uses up at least two bytes, so their number bounds the steps. -/
def drain : (steps : Nat) → Inlet → Inlet × List Arrival × Bool
  | 0, i => (i, [], true)
  | n + 1, i =>
    match Header.read (i.buffer.extract 0 14).toList with
    | .error () => (i, [], false)
    | .ok none => (i, [], true)
    | .ok (some h) =>
      if i.buffer.size < h.start + h.size then (i, [], true)
      else
        let content := unmask h.mask (i.buffer.extract h.start (h.start + h.size))
        let rest := i.buffer.extract (h.start + h.size) i.buffer.size
        match { i with buffer := rest }.accept h content with
        | .error () => (i, [], false)
        | .ok (i, arrival) =>
          let (i, more, fine) := drain n i
          (i, arrival.toList ++ more, fine)

/-- Takes in bytes: what they bring, in order, and whether a webview may send them. -/
def feed (i : Inlet) (bytes : ByteArray) : Inlet × List Arrival × Bool :=
  let buffer := i.buffer ++ bytes
  drain buffer.size { i with buffer }

end Inlet

end Wire

end WebviewBridge
