import Mathlib.Tactic.Lemma

/-!
# Computations that may fail

A computation of several parts goes on with what each part gave (`ok_bind`) and ends with the first
that fails (`error_bind`); one that succeeds has succeeded in each of them (`bind_eq_ok`,
`map_eq_ok`).
-/

namespace WebviewBridge

variable {α β ε : Type}

/-- A computation goes on with what its first part gave. -/
lemma ok_bind (a : α) (f : α → Except ε β) : (Except.ok a >>= f) = f a := rfl

/-- A computation ends with its first part if that fails. -/
lemma error_bind (e : ε) (f : α → Except ε β) : (Except.error e >>= f) = .error e := rfl

/-- A computation that succeeds has succeeded in its first part. -/
lemma bind_eq_ok {x : Except ε α} {f : α → Except ε β} {b : β} (h : (x >>= f) = .ok b) :
    ∃ a, x = .ok a ∧ f a = .ok b := by
  cases x with
  | error e => cases h
  | ok a => exact ⟨a, rfl, h⟩

lemma map_eq_ok {x : Except ε α} {f : α → β} {b : β} (h : x.map f = .ok b) :
    ∃ a, x = .ok a ∧ f a = b := by
  cases x with
  | error e => cases h
  | ok a => exact ⟨a, rfl, Except.ok.inj h⟩

/-- A computation that failed gave nothing. -/
lemma not_exists_error_eq_ok (e : ε) : ¬∃ a : α, Except.error e = .ok a := nofun

end WebviewBridge
