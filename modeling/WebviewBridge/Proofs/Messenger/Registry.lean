import Mathlib.Data.List.Nodup
import Mathlib.Data.List.Range
import Mathlib.Tactic.Lemma
import WebviewBridge.Messenger.Listeners

/-!
# Registrations and their ends

What was done with a registry is a list of deeds: registrations, and removals that were asked for,
each with what was answered.  A registration is live as long as no later deed asks for its removal
(`Registry.liveAfter`).  A registry that went through some deeds holds the live registrations in
the order in which they were made, and every registration is either live or was answered for with
yes exactly once (`Registry.Follows`).
-/

namespace WebviewBridge.Registry

variable {α : Type}

/-- Something that was done with a registry. -/
inductive Deed (α : Type) where
  | registered (s : Subscription) (listener : α)
  /-- A removal was asked for; whether the registration was live. -/
  | unregistered (s : Subscription) (wasLive : Bool)

/-- Whether a deed asks for the removal of a registration. -/
def Deed.removes (s : Subscription) : Deed α → Bool
  | registered _ _ => false
  | unregistered s' _ => s' = s

/-- The registrations whose removal was not asked for since, oldest first. -/
def liveAfter : List (Deed α) → List (Subscription × α)
  | [] => []
  | .registered s l :: later =>
    if later.any (·.removes s) then liveAfter later else (s, l) :: liveAfter later
  | .unregistered _ _ :: later => liveAfter later

/-- All registrations that were ever made, oldest first. -/
def registrations (deeds : List (Deed α)) : List Subscription :=
  deeds.filterMap fun
    | .registered s _ => some s
    | .unregistered _ _ => none

/-- What was answered to those who asked for the removal of a registration, oldest first. -/
def answers (s : Subscription) (deeds : List (Deed α)) : List Bool :=
  deeds.filterMap fun
    | .registered _ _ => none
    | .unregistered s' wasLive => if s' = s then some wasLive else none

lemma liveAfter_append_registered (deeds : List (Deed α)) (s : Subscription) (l : α) :
    liveAfter (deeds ++ [.registered s l]) = liveAfter deeds ++ [(s, l)] := by
  induction deeds with
  | nil => rfl
  | cons d deeds ih =>
    cases d with
    | registered s' l' =>
      have hany : (deeds ++ [Deed.registered s l]).any (·.removes s') =
          deeds.any (·.removes s') := by
        rw [List.any_append]
        exact Bool.or_false _
      rw [List.cons_append, liveAfter, liveAfter, hany, ih]
      split <;> rfl
    | unregistered s' wasLive => exact ih

lemma liveAfter_append_unregistered (deeds : List (Deed α)) (s : Subscription) (wasLive : Bool) :
    liveAfter (deeds ++ [.unregistered s wasLive]) = (liveAfter deeds).filter (·.1 ≠ s) := by
  induction deeds with
  | nil => rfl
  | cons d deeds ih =>
    cases d with
    | registered s' l' =>
      have hany : (deeds ++ [Deed.unregistered s wasLive]).any (·.removes s') =
          (deeds.any (·.removes s') || decide (s = s')) := by
        rw [List.any_append]
        exact congrArg _ (Bool.or_false _)
      rw [List.cons_append, liveAfter, liveAfter, hany, ih]
      by_cases hlater : deeds.any (·.removes s') = true
      · rw [hlater, Bool.true_or, if_pos rfl, if_pos rfl]
      · rw [eq_false_of_ne_true hlater, Bool.false_or, if_neg Bool.false_ne_true]
        by_cases hs : s = s'
        · rw [if_pos (decide_eq_true hs), List.filter_cons_of_neg (by simp [hs])]
        · rw [if_neg (by simp [hs]), List.filter_cons_of_pos (by simpa using Ne.symm hs)]
    | unregistered s' wasLive => exact ih

/-- What is live was registered, in that order. -/
lemma sublist_registrations (deeds : List (Deed α)) :
    List.Sublist ((liveAfter deeds).map (·.1)) (registrations deeds) := by
  induction deeds with
  | nil => exact .slnil
  | cons d deeds ih =>
    cases d with
    | registered s l =>
      rw [liveAfter]
      split
      · exact ih.cons s
      · exact ih.cons_cons s
    | unregistered s wasLive => exact ih

/-- A registry that went through some deeds. -/
structure Follows (r : Registry α) (deeds : List (Deed α)) : Prop where
  /-- It holds what was registered and is not removed yet, in the order of registration. -/
  entries : r.entries = liveAfter deeds
  /-- Registrations are numbered in the order in which they were made. -/
  numbers : (registrations deeds).map (·.id.number) = List.range r.next
  /-- Every registration is live, or somebody who asked for its removal was told that it was; what
  was never registered is neither. -/
  once : ∀ s, (answers s deeds).count true + r.live.count s = (registrations deeds).count s

namespace Follows

variable {r : Registry α} {deeds : List (Deed α)}

lemma nodup_registrations (h : r.Follows deeds) : (registrations deeds).Nodup := by
  refine List.Nodup.of_map (fun s : Subscription => s.id.number) ?_
  rw [h.numbers]
  exact List.nodup_range

lemma nodup_live (h : r.Follows deeds) : r.live.Nodup := by
  rw [live, h.entries]
  exact h.nodup_registrations.sublist (sublist_registrations deeds)

/-- Of two registrations the later one has the greater number. -/
lemma sorted (h : r.Follows deeds) :
    (r.entries.map (·.1.id.number)).Pairwise (· < ·) := by
  have hsub : List.Sublist (r.entries.map (·.1.id.number))
      ((registrations deeds).map (·.id.number)) := by
    have hmap := (sublist_registrations deeds).map fun s : Subscription => s.id.number
    rw [List.map_map, ← h.entries] at hmap
    exact hmap
  rw [h.numbers] at hsub
  exact List.pairwise_lt_range.sublist hsub

/-- A registry with which nothing was done. -/
lemma unchanged (h : r.Follows deeds) {r' : Registry α} (hr : r' = r) :
    r'.Follows (deeds ++ []) := by
  rw [List.append_nil, hr]
  exact h

/-- A new registration. -/
lemma register (h : r.Follows deeds) (t : String) (l : α) :
    (r.register t l).1.Follows (deeds ++ [.registered (r.register t l).2 l]) where
  entries := by
    rw [liveAfter_append_registered, ← h.entries]
    rfl
  numbers := by
    change (registrations (deeds ++ [_])).map _ = List.range (r.next + 1)
    rw [registrations, List.filterMap_append, List.map_append, List.range_succ, ← h.numbers]
    rfl
  once s := by
    have hlive : (r.register t l).1.live = r.live ++ [(r.register t l).2] := by
      simp [live, Registry.register]
    have hregistrations : registrations (deeds ++ [.registered (r.register t l).2 l]) =
        registrations deeds ++ [(r.register t l).2] := by
      simp [registrations, List.filterMap_append]
    have hanswers : answers s (deeds ++ [.registered (r.register t l).2 l]) =
        answers s deeds := by
      simp [answers, List.filterMap_append]
    rw [hlive, hregistrations, hanswers, List.count_append, List.count_append, ← Nat.add_assoc,
      h.once s]

/-- A removal that is asked for. -/
lemma unregister (h : r.Follows deeds) (s : Subscription) :
    (r.unregister s).1.Follows (deeds ++ [.unregistered s (r.unregister s).2]) where
  entries := by
    rw [liveAfter_append_unregistered, ← h.entries]
    rfl
  numbers := by
    rw [registrations, List.filterMap_append]
    exact (congrArg _ (List.append_nil _)).trans h.numbers
  once s' := by
    have hregistrations : registrations (deeds ++ [.unregistered s (r.unregister s).2]) =
        registrations deeds := by
      simp [registrations, List.filterMap_append]
    have hlive : (r.unregister s).1.live = r.live.filter (· ≠ s) := by
      simp only [live, Registry.unregister, List.filter_map]
      rfl
    rw [hregistrations, ← h.once s', hlive]
    by_cases hs : s = s'
    · subst hs
      have hanswers : answers s (deeds ++ [.unregistered s (r.unregister s).2]) =
          answers s deeds ++ [r.isLive s] := by
        simp [answers, List.filterMap_append, Registry.unregister]
      have hgone : (r.live.filter (· ≠ s)).count s = 0 :=
        List.count_eq_zero.2 fun hmem => by simpa using (List.mem_filter.1 hmem).2
      rw [hanswers, List.count_append, hgone]
      by_cases hmem : r.isLive s = true
      · -- it was live, once
        have hone : r.live.count s = 1 := by
          refine List.count_eq_one_of_mem h.nodup_live ?_
          obtain ⟨x, hx, hxs⟩ := List.any_eq_true.1 hmem
          exact List.mem_map.2 ⟨x, hx, of_decide_eq_true hxs⟩
        rw [hmem, hone]
        rfl
      · have hzero : r.live.count s = 0 := by
          refine List.count_eq_zero.2 fun hin => hmem ?_
          obtain ⟨x, hx, hxs⟩ := List.mem_map.1 hin
          exact List.any_eq_true.2 ⟨x, hx, decide_eq_true hxs⟩
        rw [eq_false_of_ne_true hmem, hzero]
        rfl
    · have hanswers : answers s' (deeds ++ [.unregistered s (r.unregister s).2]) =
          answers s' deeds := by
        simp [answers, List.filterMap_append, hs]
      have hkept : (r.live.filter (· ≠ s)).count s' = r.live.count s' :=
        List.count_filter (by simpa using Ne.symm hs)
      rw [hanswers, hkept]

/-- A removal takes out the registration that it names, if that is live, and nothing else. -/
lemma unregister_cases (h : r.Follows deeds) (s : Subscription) :
    r.unregister s = (r, false) ∧ (∀ l, (s, l) ∉ r.entries) ∨
      ∃ front l back, r.entries = front ++ (s, l) :: back ∧
        r.unregister s = (⟨r.next, front ++ back⟩, true) := by
  by_cases hlive : r.isLive s = true
  · refine Or.inr ?_
    obtain ⟨⟨s', l⟩, hmem, hs⟩ := List.any_eq_true.1 hlive
    obtain rfl : s' = s := of_decide_eq_true hs
    obtain ⟨front, back, hsplit⟩ := List.append_of_mem hmem
    refine ⟨front, l, back, hsplit, ?_⟩
    -- no other entry is of that registration
    have hnodup := h.nodup_live
    rw [live, hsplit, List.map_append, List.map_cons, List.nodup_middle, List.nodup_cons] at hnodup
    have hothers : ∀ x ∈ front ++ back, decide (x.1 ≠ s') = true := by
      intro x hx
      refine decide_eq_true fun heq => hnodup.1 ?_
      rw [← List.map_append]
      exact List.mem_map.2 ⟨x, hx, heq⟩
    have hkept : r.entries.filter (·.1 ≠ s') = front ++ back := by
      rw [hsplit, List.filter_append, List.filter_cons_of_neg (by simp), ← List.filter_append]
      exact List.filter_eq_self.2 hothers
    rw [Registry.unregister, hkept, hlive]
  · have hnone : ∀ l, (s, l) ∉ r.entries := fun l hmem =>
      hlive (List.any_eq_true.2 ⟨(s, l), hmem, decide_eq_true rfl⟩)
    have hkept : r.entries.filter (·.1 ≠ s) = r.entries := by
      refine List.filter_eq_self.2 fun x hx => decide_eq_true ?_
      rintro rfl
      exact hnone x.2 hx
    refine Or.inl ⟨?_, hnone⟩
    rw [Registry.unregister, hkept, eq_false_of_ne_true hlive]

end Follows

end WebviewBridge.Registry
