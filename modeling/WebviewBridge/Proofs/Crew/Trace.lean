import Mathlib.Data.List.Induction
import Mathlib.Data.List.Nodup
import WebviewBridge.Proofs.Crew.Commands

/-!
# Histories against a plain record

What a crew does with the state of its host can be checked against a plain record, deed by deed and
without the crew: `Deed.Suits` says what a deed is like that is done after others, and a trace is a
history in which every deed suits those before it.  In a trace commands are applied in the order in
which they were queued (`IsTrace.applied_prefix`), a command that was acknowledged was applied
before (`IsTrace.exists_of_carriedOut`), and whoever looks at the state afterwards sees it or a later one
(`IsTrace.exists_shown`).
-/

namespace WebviewBridge

/-! ## Looks at the state -/

namespace Effect

/-- What a look at the state shows. -/
def look : (e : Effect) → HostState → Option e.Answer
  | creatorState, s => some s.creator
  | credentials, s => some s.credentials
  | _, _ => none

/-- What a look shows of a command, if it looks at what the command sets. -/
def shows? : (e : Effect) → StateCommand → Option e.Answer
  | creatorState, .setCreatorState x => some x
  | credentials, .setCredentials x => some x
  | credentials, .clearCredentials => some .empty
  | _, _ => none

/-- The command that an effect has had applied, if that is its answer. -/
def carriedOut? : (e : Effect) → e.Answer → Option StateCommand
  | update x, .ok () => some x
  | _, _ => none

variable (e : Effect) (s : HostState)

/-- A look shows the command that was applied last, unless it is of another kind. -/
lemma look_apply (x : StateCommand) : e.look (s.apply x) = (e.shows? x).or (e.look s) := by
  cases e <;> cases x <;> rfl

end Effect

/-! ## Traces -/

namespace Deed

/-- The worker who did it. -/
def worker? : Deed → Option Nat
  | started | applied _ _ => none
  | queued i _ _ | performed i _ _ => some i

/-- The place of the command that was applied. -/
def appliedAs? : Deed → Option Ticket
  | applied t _ => some t
  | _ => none

/-- Whether a keeper was started. -/
def isStart : Deed → Bool
  | started => true
  | _ => false

/-- What a deed is like that is done after others, on a host where no commands waited at first.  One
keeper starts, and none if there is one.  Commands get their places in the order in which they are
queued, and are applied in that order.  A look shows the state after the commands so far.  Whoever
is told that a command was applied has queued it, has done nothing since, and its turn has come. -/
def Suits (h : Host) (before : List Deed) : Deed → Prop
  | started => h.keeper = .notStarted ∧ started ∉ before
  | queued _ t _ => t.number = h.applied + (before.filterMap queued?).length
  | applied t x => t.number = h.applied + (before.filterMap applied?).length ∧
      ((before.filterMap queued?).map (·.2))[(before.filterMap applied?).length]? = some x
  | performed i e a =>
      (∀ b, e.look (h.state.applyAll (before.filterMap applied?)) = some b → a = b) ∧
      ∀ x, e.carriedOut? a = some x →
        ∃ earlier t since, before = earlier ++ queued i t x :: since ∧
          (∀ d ∈ since, d.worker? ≠ some i) ∧
          t.number < h.applied + (before.filterMap applied?).length

end Deed

/-- A history in which every deed suits those before it. -/
inductive IsTrace (h : Host) : List Deed → Prop
  | nil : IsTrace h []
  | snoc {l : List Deed} {d : Deed} (hl : IsTrace h l) (hd : d.Suits h l) : IsTrace h (l ++ [d])

namespace IsTrace

variable {h : Host} {l l' before after : List Deed} {d : Deed} {t : Ticket} {x : StateCommand}

/-- Every deed of a trace suits those before it. -/
lemma suits (hl : IsTrace h l) (heq : l = before ++ d :: after) : d.Suits h before := by
  induction hl generalizing after with
  | nil => simp at heq
  | @snoc l e hl he ih =>
    rcases List.eq_nil_or_concat after with rfl | ⟨after, e', rfl⟩
    · obtain ⟨rfl, hde⟩ := List.append_inj' heq rfl
      cases hde
      exact he
    · rw [List.concat_eq_append, ← List.cons_append, ← List.append_assoc] at heq
      exact ih (List.append_inj' heq rfl).1

/-- A trace up to some point is one. -/
lemma of_append (hl : IsTrace h (l ++ l')) : IsTrace h l := by
  induction l' using List.reverseRecOn with
  | nil => rwa [List.append_nil] at hl
  | append_singleton l' d ih =>
    refine ih ?_
    rw [← List.append_assoc] at hl
    generalize hlist : l ++ l' ++ [d] = whole at hl
    cases hl with
    | nil => simp at hlist
    | snoc hl hd =>
      obtain ⟨rfl, -⟩ := List.append_inj' hlist rfl
      exact hl

/-- At most one keeper is started, and none if there is one. -/
lemma countP_isStart_le (hl : IsTrace h l) :
    l.countP Deed.isStart ≤ 1 ∧ (h.keeper ≠ .notStarted → l.countP Deed.isStart = 0) := by
  induction hl with
  | nil => simp
  | @snoc l d hl hd ih =>
    rw [List.countP_append, List.countP_singleton]
    cases d with
    | started =>
      obtain ⟨hkeeper, hnew⟩ := hd
      have hnone : l.countP Deed.isStart = 0 := by
        rw [List.countP_eq_zero]
        intro d hd hstart
        cases d with
        | started => exact hnew hd
        | _ => cases hstart
      rw [hnone]
      exact ⟨Nat.le_refl _, fun h => absurd hkeeper h⟩
    | _ => simpa [Deed.isStart] using ih

/-- **Commands are applied in the order in which they are queued.** -/
theorem applied_prefix (hl : IsTrace h l) :
    l.filterMap Deed.applied? <+: (l.filterMap Deed.queued?).map (·.2) := by
  induction hl with
  | nil => exact List.prefix_refl _
  | @snoc l d hl hd ih =>
    rw [List.filterMap_append, List.filterMap_append]
    cases d with
    | started | performed =>
      simpa [List.filterMap_cons, Deed.applied?, Deed.queued?] using ih
    | queued i t x =>
      simp only [List.filterMap_cons, List.filterMap_nil, Deed.applied?, Deed.queued?,
        List.append_nil, List.map_append]
      exact ih.trans (List.prefix_append _ _)
    | applied t x =>
      obtain ⟨waiting, hwaiting⟩ := ih
      obtain ⟨-, hnext⟩ := hd
      rw [← hwaiting, List.getElem?_append_right (Nat.le_refl _), Nat.sub_self] at hnext
      cases waiting with
      | nil => cases hnext
      | cons y waiting =>
        cases hnext
        refine ⟨waiting, ?_⟩
        simp [Deed.applied?, Deed.queued?, ← hwaiting]

/-- The places of the commands that are applied are numbered one after the other. -/
lemma filterMap_appliedAs? (hl : IsTrace h l) :
    l.filterMap Deed.appliedAs? =
      (List.range (l.filterMap Deed.applied?).length).map fun k => ⟨h.applied + k⟩ := by
  induction hl with
  | nil => rfl
  | @snoc l d hl hd ih =>
    rw [List.filterMap_append, List.filterMap_append, ih]
    cases d with
    | applied t x =>
      obtain ⟨n⟩ := t
      have hn : n = h.applied + (l.filterMap Deed.applied?).length := hd.1
      simp [Deed.applied?, Deed.appliedAs?, List.range_succ, hn]
    | _ => simp [List.filterMap_cons, Deed.applied?, Deed.appliedAs?]

lemma mem_appliedAs? (ht : .applied t x ∈ l) : t ∈ l.filterMap Deed.appliedAs? :=
  List.mem_filterMap.2 ⟨_, ht, rfl⟩

lemma number_lt (hl : IsTrace h l) (ht : .applied t x ∈ l) :
    t.number < h.applied + (l.filterMap Deed.applied?).length := by
  have hmem := mem_appliedAs? ht
  rw [hl.filterMap_appliedAs?, List.mem_map] at hmem
  obtain ⟨k, hk, rfl⟩ := hmem
  exact Nat.add_lt_add_left (List.mem_range.1 hk) _

/-- No command is applied twice. -/
lemma count_appliedAs? (hl : IsTrace h l) (ht : .applied t x ∈ l) :
    (l.filterMap Deed.appliedAs?).count t = 1 := by
  refine List.count_eq_one_of_mem ?_ (mem_appliedAs? ht)
  rw [hl.filterMap_appliedAs?]
  refine List.Nodup.map ?_ List.nodup_range
  intro a b hab
  exact Nat.add_left_cancel (Ticket.mk.inj hab)

/-- The command that comes in some place among those that are applied. -/
lemma exists_applied (hl : IsTrace h l) {k : ℕ} (hk : k < (l.filterMap Deed.applied?).length) :
    ∃ before y after, l = before ++ .applied ⟨h.applied + k⟩ y :: after ∧
      ((before.filterMap Deed.queued?).map (·.2))[k]? = some y := by
  have hsplit := List.take_append_drop k (l.filterMap Deed.applied?)
  obtain ⟨l₁, l₂, rfl, hfirst, hlast⟩ := List.filterMap_eq_append_iff.1 hsplit.symm
  obtain ⟨y, ys, hcons⟩ : ∃ y ys, (List.filterMap Deed.applied? (l₁ ++ l₂)).drop k = y :: ys :=
    List.exists_cons_of_ne_nil (by simpa using hk)
  rw [hcons] at hlast
  obtain ⟨l₃, d, after, rfl, hnone, hd, -⟩ := List.filterMap_eq_cons_iff.1 hlast
  cases d with
  | applied t z =>
    cases hd
    have hlength : ((l₁ ++ l₃).filterMap Deed.applied?).length = k := by
      rw [List.filterMap_append, hfirst, List.filterMap_eq_nil_iff.2 hnone, List.append_nil,
        List.length_take, Nat.min_eq_left (Nat.le_of_lt hk)]
    have heq : l₁ ++ (l₃ ++ .applied t y :: after) = (l₁ ++ l₃) ++ .applied t y :: after :=
      (List.append_assoc ..).symm
    obtain ⟨hnumber, hy⟩ := hl.suits heq
    rw [hlength] at hnumber hy
    refine ⟨l₁ ++ l₃, y, after, ?_, hy⟩
    rw [heq, ← hnumber]
  | _ => cases hd

/-- **A command that was acknowledged was applied before that**, after it was queued. -/
theorem exists_of_carriedOut {i : ℕ} {e : Effect} {a : e.Answer} (hl : IsTrace h l)
    (heq : l = before ++ .performed i e a :: after) (hx : e.carriedOut? a = some x) :
    ∃ earlier t since, before = earlier ++ .queued i t x :: since ∧
      (∀ d ∈ since, d.worker? ≠ some i) ∧ .applied t x ∈ since := by
  obtain ⟨earlier, t, since, hbefore, hsince, hlt⟩ := (hl.suits heq).2 x hx
  rw [heq] at hl
  have htrace := hl.of_append
  refine ⟨earlier, t, since, hbefore, hsince, ?_⟩
  have hnumber : t.number = h.applied + (earlier.filterMap Deed.queued?).length :=
    htrace.suits hbefore
  obtain ⟨pre, y, post, hpre, hy⟩ :=
    htrace.exists_applied (k := (earlier.filterMap Deed.queued?).length) (by omega)
  have hplace : t = ⟨h.applied + (earlier.filterMap Deed.queued?).length⟩ :=
    congrArg Ticket.mk hnumber
  rw [← hplace] at hpre
  -- the command was not applied before it was queued
  rcases List.append_eq_append_iff.1 (hbefore.symm.trans hpre) with
    ⟨mid, hmid, hcons⟩ | ⟨mid, hmid, -⟩
  · cases mid with
    | nil => cases hcons
    | cons d mid =>
      cases hcons
      rw [hmid, List.filterMap_append, List.map_append,
        List.getElem?_append_right (by simp)] at hy
      have hself : y = x := by simpa [Deed.queued?] using hy.symm
      rw [hself]
      exact List.mem_append_right _ List.mem_cons_self
  · have hle : (pre.filterMap Deed.queued?).length ≤ (earlier.filterMap Deed.queued?).length := by
      rw [hmid, List.filterMap_append, List.length_append]
      exact Nat.le_add_right _ _
    rw [List.getElem?_eq_none (by rwa [List.length_map])] at hy
    cases hy

/-- **Once a command was applied, a look shows it or a later one of its kind.** -/
theorem exists_shown (hl : IsTrace h l) (ht : .applied t x ∈ l) {e : Effect} {a : e.Answer}
    (hx : e.shows? x = some a) :
    ∃ t' x' b, .applied t' x' ∈ l ∧ t.number ≤ t'.number ∧ e.shows? x' = some b ∧
      e.look (h.state.applyAll (l.filterMap Deed.applied?)) = some b := by
  induction hl with
  | nil => cases ht
  | @snoc l d hl hd ih =>
    have hother (hd : d.applied? = none) (hmem : .applied t x ∈ l) :
        ∃ t' x' b, .applied t' x' ∈ l ++ [d] ∧ t.number ≤ t'.number ∧ e.shows? x' = some b ∧
          e.look (h.state.applyAll ((l ++ [d]).filterMap Deed.applied?)) = some b := by
      obtain ⟨t', x', b, hmem', hle, hshows, hlook⟩ := ih hmem
      refine ⟨t', x', b, List.mem_append_left _ hmem', hle, hshows, ?_⟩
      simpa [hd] using hlook
    rcases List.mem_append.1 ht with hold | hnew
    · cases d with
      | applied t₁ x₁ =>
        rw [h.state.applyAll_append_applied, e.look_apply]
        cases hx₁ : e.shows? x₁ with
        | none =>
          obtain ⟨t', x', b, hmem', hle, hshows, hlook⟩ := ih hold
          exact ⟨t', x', b, List.mem_append_left _ hmem', hle, hshows, hlook⟩
        | some b =>
          refine ⟨t₁, x₁, b, List.mem_append_right _ List.mem_cons_self, ?_, hx₁, rfl⟩
          have hlt := hl.number_lt hold
          rw [← hd.1] at hlt
          exact Nat.le_of_lt hlt
      | _ => exact hother rfl hold
    · cases List.mem_singleton.1 hnew
      refine ⟨t, x, a, ht, Nat.le_refl _, hx, ?_⟩
      rw [h.state.applyAll_append_applied, e.look_apply, hx]
      rfl

end IsTrace

end WebviewBridge
