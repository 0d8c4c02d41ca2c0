import WebviewBridge.Text.Utf8

/-!
# The address of a bridge and its token

A webview presents the host's token as the query parameter `token` of the address that it
connects to.  `bridgeUrl` writes that address, `queryToken?` reads the token back from the query
of a request, and `accepts` is the host's check.
-/

namespace WebviewBridge

/-- The only host name that a bridge listens on. -/
def bridgeHostname : String := "127.0.0.1"

/-- The query parameter that carries the token. -/
def tokenParameter : String := "token"

namespace Form

/-- The hexadecimal digit of a number below sixteen, in upper case. -/
def upperHexDigit (n : Nat) : Char := (Nat.digitChar n).toUpper

/-- One byte in a form: letters, digits and four marks as they are, a blank as a plus sign, any
other byte as a percent sign with two hexadecimal digits. -/
def encodeByte (b : UInt8) : List Char :=
  let c := Char.ofNat b.toNat
  if b.toNat < 0x80 ∧ (c.isAlphanum ∨ c = '*' ∨ c = '-' ∨ c = '.' ∨ c = '_') then [c]
  else if c = ' ' then ['+']
  else ['%', upperHexDigit (b.toNat / 16), upperHexDigit (b.toNat % 16)]

/-- A text in a form. -/
def encode (s : String) : List Char := (Text.encode s).flatMap encodeByte

/-- The value of a hexadecimal digit of either case. -/
def hexDigit? (c : Char) : Option Nat :=
  if c.isDigit then some (c.toNat - '0'.toNat)
  else if 'a' ≤ c ∧ c ≤ 'f' then some (c.toNat - 'a'.toNat + 10)
  else if 'A' ≤ c ∧ c ≤ 'F' then some (c.toNat - 'A'.toNat + 10)
  else none

/-- The byte of two hexadecimal digits. -/
def hexByte? (a b : Char) : Option UInt8 := do
  pure (UInt8.ofNat ((← hexDigit? a) * 16 + (← hexDigit? b)))

/-- The bytes that a form's text stands for.  A percent sign without two hexadecimal digits
stands for itself. -/
def decodeBytes : List Char → List UInt8
  | [] => []
  | '+' :: cs => 0x20 :: decodeBytes cs
  | '%' :: a :: b :: cs =>
    match hexByte? a b with
    | some byte => byte :: decodeBytes cs
    | none => String.utf8EncodeChar '%' ++ decodeBytes (a :: b :: cs)
  | c :: cs => String.utf8EncodeChar c ++ decodeBytes cs
termination_by cs => cs.length

/-- The text that a form's text stands for. -/
def decode (cs : List Char) : String := Text.decodeLossy (decodeBytes cs)

/-- The characters before and after the first separator; nothing after it when there is none. -/
def cut (separator : Char) (cs : List Char) : List Char × List Char :=
  (cs.takeWhile (· ≠ separator), (cs.dropWhile (· ≠ separator)).drop 1)

/-- The parts between separators. -/
def split (separator : Char) : List Char → List (List Char)
  | [] => [[]]
  | c :: cs =>
    match split separator cs with
    | [] => [[c]]
    | p :: ps => if c = separator then [] :: p :: ps else (c :: p) :: ps

/-- The pairs of a query in order; empty parts count for nothing. -/
def pairs (query : List Char) : List (String × String) :=
  ((split '&' query).filter (!·.isEmpty)).map fun part =>
    let (key, value) := cut '=' part
    (decode key, decode value)

end Form

/-- The port that the scheme of the address stands for when none is written. -/
def defaultPort : Nat := 80

/-- The path and query under which a bridge is reached with a token. -/
def bridgeTarget (token : String) : String :=
  "/?" ++ tokenParameter ++ "=" ++ String.ofList (Form.encode token)

/-- The address of the bridge on a port, with a token. -/
def bridgeUrl (port : Nat) (token : String) : String :=
  "ws://" ++ bridgeHostname
    ++ (if port = defaultPort then "" else ":" ++ toString port) ++ bridgeTarget token

/-- The query of a target: what stands between the first question mark and a number sign. -/
def targetQuery (target : List Char) : List Char :=
  (Form.cut '?' (Form.cut '#' target).1).2

/-- The token of a query: the value of the first pair whose key is the token's. -/
def queryToken? (query : List Char) : Option String :=
  ((Form.pairs query).find? fun p => p.1 == tokenParameter).map (·.2)

/-- Whether a host with a token lets in who asks for a target. -/
def accepts (token : String) (target : List Char) : Bool :=
  queryToken? (targetQuery target) == some token

end WebviewBridge
