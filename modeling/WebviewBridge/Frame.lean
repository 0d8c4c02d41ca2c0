/-!
# Frames

What reaches one end of a connection.
-/

namespace WebviewBridge

/-- A frame that reaches one end of a connection. -/
inductive Frame where
  | text (content : String)
  /-- A binary frame or a control frame other than the one that closes. -/
  | other
  | close
deriving DecidableEq, Repr

end WebviewBridge
