/-!
# Durations in messages

A duration of whole milliseconds is shown in seconds with as few decimals as it needs, or in
milliseconds below a second.
-/

namespace WebviewBridge.Text

/-- Three decimals without trailing zeros, with the point; nothing for zero. -/
def decimals (ms : Nat) : String :=
  let digit (n : Nat) : String := String.singleton (Nat.digitChar (n % 10))
  if ms = 0 then ""
  else if ms % 100 = 0 then "." ++ digit (ms / 100)
  else if ms % 10 = 0 then "." ++ digit (ms / 100) ++ digit (ms / 10)
  else "." ++ digit (ms / 100) ++ digit (ms / 10) ++ digit ms

/-- The text of a duration. -/
def duration (ms : Nat) : String :=
  if ms ≥ 1000 then toString (ms / 1000) ++ decimals (ms % 1000) ++ "s"
  else if ms > 0 then toString ms ++ "ms"
  else "0ns"

end WebviewBridge.Text
