import WebviewBridge.Catalog.Payload
import WebviewBridge.Proofs.Catalog.RoundTrip
import WebviewBridge.Proofs.Json.Refusals

/-!
# Requests to carry out a plan, there and back

The plan of a request and the members of its submission are written side by side, in one object.  A
submission keeps members of any name, so one of them may be called like the plan; then the text has
two plans, and nobody can read it.  Main statement: the request is read from its text just when no
member without a field is in the way, and there are two ways to be that
(`ExecutePlanRequest.parse_text_ofSubmission`).
-/

namespace WebviewBridge

open Json Catalog

namespace SubmitIdea

variable {s : SubmitIdea} {m : String × Value}

/-- The members that a submission has fields for, as they are written. -/
def named (s : SubmitIdea) : List (String × Value) :=
  ("request", .str s.request) :: optionalMember "newProjectType" s.projectType
    ++ optionalMember "newProjectPath" s.projectPath

/-- Whether a member has the name of a plan, or more levels than there is room for in an object. -/
def Obstructs (m : String × Value) : Prop := m.1 = "plan" ∨ 126 < m.2.depth

instance : DecidablePred Obstructs := fun _ => inferInstanceAs (Decidable (_ ∨ _))

/-- The first member that is in the way of a plan which is written beside the submission. -/
def obstacle? (s : SubmitIdea) : Option (String × Value) :=
  List.find? (fun m => Obstructs m) s.extra

/-- What was read from a value has values of the form in which they are kept. -/
lemma isCanonical_of_decode {v : Value} (hv : v.IsCanonical) (h : decode v = .ok s) :
    ∀ m ∈ s.extra, m.2.IsCanonical := by
  cases v with
  | obj ms =>
    rw [extra_of_decode hv.1 h]
    intro m hm
    exact Value.membersCanonical_iff.1 hv.2 m (List.mem_filter.1 hm).1
  | _ => cases h

/-- The members with a field are short texts under other names. -/
lemma not_obstructs_of_mem_named (hm : m ∈ s.named) : ¬Obstructs m ∧ m.2.Portable 126 := by
  have htext : m.1 ∈ fieldNames ∧ ∃ t, m.2 = .str t := by
    rw [named, List.mem_append, List.mem_cons, mem_optionalMember, mem_optionalMember] at hm
    rcases hm with (rfl | ⟨t, -, rfl⟩) | ⟨t, -, rfl⟩
    · exact ⟨by simp [fieldNames], _, rfl⟩
    · exact ⟨by simp [fieldNames], _, rfl⟩
    · exact ⟨by simp [fieldNames], _, rfl⟩
  obtain ⟨hname, t, ht⟩ := htext
  rw [Obstructs, ht]
  refine ⟨?_, ⟨⟨trivial, Nat.zero_le _⟩, trivial⟩⟩
  rintro (hplan | hdeep)
  · rw [hplan] at hname
    simp [fieldNames] at hname
  · exact absurd hdeep (Nat.not_lt_zero _)

end SubmitIdea

namespace ExecutePlanRequest

open SubmitIdea

variable {s : SubmitIdea}

/-- Members that do not obstruct a plan are gathered in the order in which they come. -/
lemma gathers_others {ms : List (String × Value)} (hclear : ∀ m ∈ ms, ¬Obstructs m)
    (hportable : ∀ m ∈ ms, m.2.Portable 126) (d : Draft) :
    layout.Gathers 126 d ms { d with others := d.others ++ ms } := by
  induction ms generalizing d with
  | nil =>
    rw [List.append_nil]
    exact .nil d
  | cons m ms ih =>
    have hfield : layout.fields.find? (·.hasName m.1) = none := by
      have hm : m.1 ≠ "plan" := fun h => hclear m List.mem_cons_self (Or.inl h)
      simp [layout, Field.hasName, hm]
    refine .other hfield rfl (hportable m List.mem_cons_self).reads ?_
    have hrest := ih (fun x hx => hclear x (List.mem_cons_of_mem m hx))
      (fun x hx => hportable x (List.mem_cons_of_mem m hx)) { d with others := d.others ++ [m] }
    simpa only [List.append_assoc, List.singleton_append] using hrest

/-- The plan of a submission is gathered, and its members up to the first that obstructs it. -/
lemma gathers_members {extra : List (String × Value)} (hclear : ∀ m ∈ extra, ¬Obstructs m)
    (hportable : ∀ m ∈ extra, m.2.Portable 126) :
    layout.Gathers 126 {} (("plan", .str s.request) :: (s.named ++ extra))
      ⟨some s.request, s.named ++ extra⟩ := by
  have hplan := (reads_textValue s.request 126).bind fun x (d : Draft) => { d with plan := some x }
  refine .field (f := layout.fields[0]) rfl rfl hplan ?_
  refine gathers_others ?_ ?_ ⟨some s.request, []⟩
  · intro m hm
    rcases List.mem_append.1 hm with hm | hm
    · exact (not_obstructs_of_mem_named hm).1
    · exact hclear m hm
  · intro m hm
    rcases List.mem_append.1 hm with hm | hm
    · exact (not_obstructs_of_mem_named hm).2
    · exact hportable m hm

/-- Whatever has no obstacle in it is read as it was written. -/
lemma parse_text_of_clear (hs : s.IsOrderly) (hclear : ∀ m ∈ s.extra, ¬Obstructs m)
    (hportable : ∀ m ∈ s.extra, m.2.Portable 126) :
    parse (ofSubmission s).text = .ok ⟨s.request, s⟩ := by
  have hgathers : layout.Gathers 126 {} (ofSubmission s).members ⟨some s.request, s.members⟩ :=
    gathers_members hclear hportable
  have hfinish : layout.finish ⟨some s.request, s.members⟩ = .ok ⟨s.request, s⟩ := by
    change (do
      let submission ← SubmitIdea.ofMembers s.members
      Except.ok (ExecutePlanRequest.mk s.request submission)) = _
    rw [ofMembers_of_perm hs (.refl _), ok_bind]
  exact (hgathers.reads hfinish).readText (Value.isText_chars _)

/-- The first obstacle is the reason why nothing is read. -/
lemma exists_parse_text_of_obstructs {before behind : List (String × Value)} {m : String × Value}
    (hextra : s.extra = before ++ m :: behind) (hclear : ∀ x ∈ before, ¬Obstructs x)
    (hportable : ∀ x ∈ before, x.2.Portable 126) (hint : m.2.IsIntegral) (hm : Obstructs m) :
    ∃ position, parse (ofSubmission s).text =
      .error ⟨if m.1 = "plan" then .duplicateField "plan" else .tooDeep, position⟩ := by
  have hgathers := gathers_members (s := s) hclear hportable
  have hmembers : (ofSubmission s).members =
      ("plan", .str s.request) :: (s.named ++ before) ++ m :: behind := by
    change ("plan", Value.str s.request) :: (s.named ++ s.extra) = _
    rw [hextra, List.cons_append, List.append_assoc]
  have hrefuses : Refuses (layout.read 127)
      (.obj (("plan", .str s.request) :: (s.named ++ before) ++ m :: behind))
      (if m.1 = "plan" then .duplicateField "plan" else .tooDeep) := by
    by_cases hplan : m.1 = "plan"
    · rw [if_pos hplan]
      have hfield : layout.fields.find? (·.hasName m.1) = some layout.fields[0] := by
        rw [hplan]
        rfl
      exact hgathers.refuses_again hfield rfl
    · rw [if_neg hplan]
      have hfield : layout.fields.find? (·.hasName m.1) = none := by
        simp [layout, Field.hasName, hplan]
      have hdeep : 126 < m.2.depth := hm.resolve_left hplan
      exact hgathers.refuses_other hfield rfl (refuses_anyValue hint hdeep)
  rw [← hmembers] at hrefuses
  exact hrefuses.readText (Value.isText_chars _)

/-- **A request to carry out a plan, there and back.**  Let a submission of integers be read from a
value.  The request that is made of it is read from its own text, with what was asked for as the
plan, if none of the members without a field is called like the plan and none is too deep.
Otherwise the first of these is the reason why the text is refused. -/
theorem parse_text_ofSubmission {payload : Option Value} {messageType : String}
    (hcanonical : ∀ v ∈ payload, v.IsCanonical)
    (hread : decodePayload SubmitIdea.decode messageType payload = .ok s) (hint : s.IsIntegral) :
    (s.obstacle? = none → parse (ofSubmission s).text = .ok ⟨s.request, s⟩) ∧
      ∀ m, s.obstacle? = some m →
        ∃ position, parse (ofSubmission s).text =
          .error ⟨if m.1 = "plan" then .duplicateField "plan" else .tooDeep, position⟩ := by
  have hdecode : SubmitIdea.decode (payload.getD .null) = .ok s := by
    rw [decodePayload] at hread
    split at hread
    · next hok =>
      cases hread
      exact hok
    · cases hread
  have hvalue : (payload.getD .null).IsCanonical := by
    cases payload with
    | none => trivial
    | some v => exact hcanonical v rfl
  have hkept := isCanonical_of_decode hvalue hdecode
  have hportable : ∀ m ∈ s.extra, ¬Obstructs m → m.2.Portable 126 := by
    intro m hm hclear
    exact ⟨⟨hkept m hm, Nat.le_of_not_lt fun h => hclear (Or.inr h)⟩, hint m hm⟩
  constructor
  · intro hnone
    have hclear : ∀ m ∈ s.extra, ¬Obstructs m := by
      simpa [obstacle?] using hnone
    exact parse_text_of_clear (isOrderly_of_decode hdecode) hclear
      fun m hm => hportable m hm (hclear m hm)
  · intro m hsome
    obtain ⟨hm, before, behind, hextra, hbefore⟩ := List.find?_eq_some_iff_append.1 hsome
    have hclear : ∀ x ∈ before, ¬Obstructs x := by
      intro x hx
      simpa using hbefore x hx
    have hmem : ∀ x ∈ before, x ∈ s.extra := by
      intro x hx
      rw [hextra]
      exact List.mem_append_left _ hx
    have hself : m ∈ s.extra := by
      rw [hextra]
      exact List.mem_append_right _ List.mem_cons_self
    exact exists_parse_text_of_obstructs hextra hclear
      (fun x hx => hportable x (hmem x hx) (hclear x hx)) (hint m hself) (by simpa using hm)

/-- A submission of two texts, a list of integers and a folder. -/
theorem parse_text_ofSubmission_notes :
    let v : Value := .obj [("newProjectPath", .str "/p"), ("note", .arr [.num (.int (-3)), .null]),
      ("plans", .str "two"), ("request", .str "r")]
    let s : SubmitIdea := ⟨"r", none, some "/p",
      [("note", .arr [.num (.int (-3)), .null]), ("plans", .str "two")]⟩
    (∀ u ∈ some v, u.IsCanonical) ∧
      decodePayload SubmitIdea.decode "SubmitIdea" (some v) = .ok s ∧ s.IsIntegral ∧
      s.obstacle? = none ∧ parse (ofSubmission s).text = .ok ⟨"r", s⟩ := by
  intro v s
  have hcanonical : ∀ u ∈ some v, u.IsCanonical := by
    rintro u ⟨⟩
    have hsorted : Members.IsSorted [("newProjectPath", .str "/p"),
        ("note", .arr [.num (.int (-3)), .null]), ("plans", .str "two"),
        ("request", .str "r")] := by
      rw [Members.IsSorted]
      decide
    exact ⟨hsorted, by simp [Value.MembersCanonical, Value.ItemsCanonical, Value.IsCanonical]⟩
  have hread : decodePayload SubmitIdea.decode "SubmitIdea" (some v) = .ok s := rfl
  have hint : s.IsIntegral := by
    have hinteger : (Number.int (-3)).IsInteger := by
      rw [Number.IsInteger]
      decide
    simpa [s, SubmitIdea.IsIntegral, Value.IsIntegral, Value.ItemsIntegral] using hinteger
  have hclear : s.obstacle? = none := by decide
  exact ⟨hcanonical, hread, hint, hclear,
    (parse_text_ofSubmission hcanonical hread hint).1 hclear⟩

/-- A submission with a member called like the plan gives a text that nobody can read. -/
theorem parse_text_of_plan_member :
    let s : SubmitIdea := ⟨"r", none, none, [("plan", .str "shadow")]⟩
    decodePayload SubmitIdea.decode "SubmitIdea"
        (some (.obj [("plan", .str "shadow"), ("request", .str "r")])) = .ok s ∧
      s.IsIntegral ∧ ∀ r, parse (ofSubmission s).text ≠ .ok r := by
  intro s
  have hint : s.IsIntegral := by simp [s, SubmitIdea.IsIntegral, Value.IsIntegral]
  refine ⟨rfl, hint, ?_⟩
  intro r hr
  have hextra : s.extra = [] ++ ("plan", .str "shadow") :: [] := rfl
  obtain ⟨position, hrefused⟩ := exists_parse_text_of_obstructs hextra (by simp) (by simp) trivial
    (Or.inl rfl)
  rw [hrefused] at hr
  cases hr

end ExecutePlanRequest

end WebviewBridge
