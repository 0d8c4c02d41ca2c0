import WebviewBridge.Decimal.Binary64

/-!
# JSON values

A free-form JSON value.  Integers from `-2 ^ 63` to `2 ^ 64 - 1` stay integers, every other
number is a double.  The members of an object are kept sorted by key, each key once, so equal
values have equal terms.
-/

namespace WebviewBridge.Json

/-- A JSON number. -/
inductive Number where
  /-- An integer from `-2 ^ 63` to `2 ^ 64 - 1`. -/
  | int (n : Int)
  /-- Any other number, and every number written with a point or an exponent. -/
  | double (x : Binary64)
deriving DecidableEq, Repr, Inhabited

/-- A JSON value. -/
inductive Value where
  | null
  | bool (b : Bool)
  | num (n : Number)
  | str (s : String)
  /-- An array of values. -/
  | arr (items : List Value)
  /-- An object; `Members.insert` keeps the keys sorted and single. -/
  | obj (members : List (String × Value))
deriving Repr, Inhabited

mutual
/-- Decides whether two values are equal. -/
def Value.decEq : (a b : Value) → Decidable (a = b)
  | .null, .null => isTrue rfl
  | .bool a, .bool b => decidable_of_iff (a = b) (by simp)
  | .num a, .num b => decidable_of_iff (a = b) (by simp)
  | .str a, .str b => decidable_of_iff (a = b) (by simp)
  | .arr a, .arr b =>
    have := Value.decEqItems a b
    decidable_of_iff (a = b) (by simp)
  | .obj a, .obj b =>
    have := Value.decEqMembers a b
    decidable_of_iff (a = b) (by simp)
  | .null, .bool _ | .null, .num _ | .null, .str _ | .null, .arr _ | .null, .obj _
  | .bool _, .null | .bool _, .num _ | .bool _, .str _ | .bool _, .arr _ | .bool _, .obj _
  | .num _, .null | .num _, .bool _ | .num _, .str _ | .num _, .arr _ | .num _, .obj _
  | .str _, .null | .str _, .bool _ | .str _, .num _ | .str _, .arr _ | .str _, .obj _
  | .arr _, .null | .arr _, .bool _ | .arr _, .num _ | .arr _, .str _ | .arr _, .obj _
  | .obj _, .null | .obj _, .bool _ | .obj _, .num _ | .obj _, .str _ | .obj _, .arr _ =>
    isFalse (by simp)
/-- Decides whether two lists of values are equal. -/
def Value.decEqItems : (a b : List Value) → Decidable (a = b)
  | [], [] => isTrue rfl
  | [], _ :: _ | _ :: _, [] => isFalse (by simp)
  | a :: as, b :: bs =>
    have := Value.decEq a b
    have := Value.decEqItems as bs
    decidable_of_iff (a = b ∧ as = bs) (by simp)
/-- Decides whether two lists of members are equal. -/
def Value.decEqMembers : (a b : List (String × Value)) → Decidable (a = b)
  | [], [] => isTrue rfl
  | [], _ :: _ | _ :: _, [] => isFalse (by simp)
  | (k, a) :: as, (l, b) :: bs =>
    have := Value.decEq a b
    have := Value.decEqMembers as bs
    decidable_of_iff ((k = l ∧ a = b) ∧ as = bs) (by simp)
end

instance : DecidableEq Value := Value.decEq

/-- The members of an object, sorted by key in code-point order. -/
abbrev Members := List (String × Value)

namespace Members

/-- Adds a member; a member of the same key is replaced. -/
def insert (key : String) (value : Value) : Members → Members
  | [] => [(key, value)]
  | (k, v) :: rest =>
    if key < k then (key, value) :: (k, v) :: rest
    else if key = k then (key, value) :: rest
    else (k, v) :: insert key value rest

/-- The members of a list in any order; of equal keys the last one counts. -/
def ofList (ms : List (String × Value)) : Members :=
  ms.foldl (fun acc m => insert m.1 m.2 acc) []

/-- The value under a key. -/
def find? (ms : Members) (key : String) : Option Value := List.lookup key ms

end Members

namespace Value

/-- The object with these members; of equal keys the last one counts. -/
def object (ms : List (String × Value)) : Value := .obj (Members.ofList ms)

/-- An integer value. -/
def int (n : Int) : Value := .num (.int n)

/-- A natural number value. -/
def nat (n : Nat) : Value := .num (.int n)

/-- A string, or null when there is none. -/
def ofString? : Option String → Value
  | some s => .str s
  | none => .null

/-- The member of an object under a key; nothing for a missing key or another kind of value. -/
def get? : Value → String → Option Value
  | .obj ms, key => Members.find? ms key
  | _, _ => none

end Value

end WebviewBridge.Json
