import WebviewBridge.Catalog.Chat
import WebviewBridge.Error

/-!
# Plan generators

A generator turns a conversation into a plan, piece by piece.  It may fail at any piece and may
take its time before one.
-/

namespace WebviewBridge

/-- What a generator gives next. -/
inductive PlanItem where
  /-- More text of the plan. -/
  | chunk (text : String)
  /-- The plan cannot be finished. -/
  | failure (e : HostError)
  /-- Nothing yet, for some milliseconds. -/
  | pause (ms : Nat)
deriving DecidableEq, Repr

/-- A generator of plans. -/
abbrev Planner := List ChatMessage → List PlanItem

namespace Planner

/-- The generator of a host without a model behind it. -/
def unconfigured : Planner := fun _ => [.failure (.plan "no plan generator is configured")]

end Planner

/-- How the failure of a plan is put to a person: the bare message of a plan error, the full text
of any other. -/
def HostError.planNotice (e : HostError) : String :=
  match e.fault with
  | .plan m => m
  | _ => e.display

end WebviewBridge
