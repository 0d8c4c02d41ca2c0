import WebviewBridge.Catalog.Payload
import WebviewBridge.Proofs.Catalog.Submission

/-!
# Payloads there and back

What is written of a payload is read as that payload again.  Lists and records of texts are read
item by item (`mapM_map_eq_pure`); a submission has its members put in order by key, and is made
again of the members in any order (`SubmitIdea.Draft.eq_of_perm`).  What was read is fit to be
written (`Kind.isOrderly_of_decode`).  Main statement: `Kind.decodePayload_encode`.
-/

namespace WebviewBridge

open Json Catalog

/-- Items are read one by one as what they were written for. -/
lemma mapM_map_eq_pure {m : Type → Type} [Monad m] [LawfulMonad m] {α β : Type} {write : α → β}
    {read : β → m α} (h : ∀ x, read (write x) = pure x) (xs : List α) :
    (xs.map write).mapM read = pure xs := by
  have hread : read ∘ write = fun x => pure (id x) := funext h
  rw [List.mapM_map, hread, List.mapM_pure, List.map_id]

/-! ## Tokens and conversations -/

/-- Tokens are read as they were written, present or absent. -/
lemma AccountTokens.decode_encode (t : AccountTokens) : decode t.encode = .ok t := by
  rcases t with ⟨_ | access, _ | refresh⟩ <;> rfl

lemma MessagePart.decode?_encode (p : MessagePart) : decode? p.encode = some p := by
  obtain ⟨kind, _ | text⟩ := p
  · rfl
  · -- the two members are written in the order of their keys
    have hlt : "text" < "type" := by decide
    have hsorted : Members.IsSorted [("text", .str text), ("type", .str kind)] :=
      List.pairwise_pair.2 hlt
    have hmembers : Members.ofList [("type", .str kind), ("text", .str text)]
        = [("text", .str text), ("type", .str kind)] :=
      Members.ofList_eq_of_perm (.swap ..) hsorted
    change decode? (.obj (Members.ofList [("type", .str kind), ("text", .str text)])) = _
    rw [hmembers]
    rfl

namespace MessageContent

lemma decode_encode (c : MessageContent) : decode c.encode = .ok c := by
  cases c with
  | text s => rfl
  | parts ps =>
    have hparts : (ps.map MessagePart.encode).mapM MessagePart.decode? = some ps :=
      mapM_map_eq_pure MessagePart.decode?_encode ps
    simp only [encode, decode, hparts]

/-- Only a string is read as a plain text. -/
lemma decode_eq_text_iff {v : Value} {s : String} : decode v = .ok (.text s) ↔ v = .str s := by
  constructor
  · intro h
    cases v with
    | str t =>
      cases h
      rfl
    | arr vs =>
      -- an array is read as parts or not at all
      rw [decode] at h
      split at h <;> cases h
    | _ => cases h
  · rintro rfl
    rfl

/-- Only an array is read as parts, one part an item. -/
lemma exists_of_decode_eq_parts {v : Value} {ps : List MessagePart}
    (h : decode v = .ok (.parts ps)) :
    ∃ vs, v = .arr vs ∧ vs.mapM MessagePart.decode? = some ps := by
  cases v with
  | arr vs =>
    rw [decode] at h
    split at h
    · next qs hqs =>
      cases h
      exact ⟨vs, rfl, hqs⟩
    · cases h
  | _ => cases h

end MessageContent

namespace ChatMessage

lemma decode_encode (m : ChatMessage) : decode m.encode = .ok m := by
  obtain ⟨role, content⟩ := m
  have hrole : decodeName ChatRole.names (.str role.name) = .ok role := by
    cases role <;> rfl
  have hpresent : decodePresent MessageContent.decode (some content.encode)
      = .ok (some content) := by
    rw [decodePresent, content.decode_encode]
    rfl
  have hrolePresent : decodePresent (decodeName ChatRole.names) (some (.str role.name))
      = .ok (some role) := by
    rw [decodePresent, hrole]
    rfl
  change (do
    let content ← decodePresent MessageContent.decode (some content.encode)
    let role ← decodePresent (decodeName ChatRole.names) (some (.str role.name))
    let role ← required "role" role
    let content ← required "content" content
    Except.ok (ChatMessage.mk role content)) = _
  rw [hpresent, hrolePresent]
  rfl

/-- A request for a plan is read as its conversation, however long. -/
lemma decodeRequest_encode (ms : List ChatMessage) :
    decodeRequest (.obj [("messages", .arr (ms.map encode))]) = .ok ms :=
  mapM_map_eq_pure (m := Except Cause) decode_encode ms

end ChatMessage

/-- Colours are read by their names. -/
lemma decodeColors_encode (cs : List (String × String)) :
    Kind.decode.decodeColors (.obj (cs.map fun c => (c.1, .str c.2))) = .ok cs := by
  rw [Kind.decode.decodeColors]
  refine mapM_map_eq_pure (m := Except Cause) ?_ cs
  intro c
  rfl

/-! ## Submissions -/

namespace SubmitIdea

/-- A submission whose members without a field are in order and have names of their own. -/
structure IsOrderly (s : SubmitIdea) : Prop where
  isSorted : s.extra.IsSorted
  notMem_fieldNames : ∀ m ∈ s.extra, m.1 ∉ fieldNames

lemma mem_optionalMember {k : String} {text : Option String} {m : String × Value} :
    m ∈ optionalMember k text ↔ ∃ s, text = some s ∧ m = (k, .str s) := by
  cases text with
  | none => simp [optionalMember]
  | some s => simp [optionalMember]

namespace Draft

variable {d e : Draft}

/-- The members found without a field have names of their own. -/
def IsOrderly (d : Draft) : Prop := ∀ m ∈ d.extra, m.1 ∉ fieldNames

/-- A name with a field is no name of another member. -/
lemma IsOrderly.notMem_extra (hd : d.IsOrderly) {k : String} (hk : k ∈ fieldNames) (v : Value) :
    (k, v) ∉ d.extra := by
  intro h
  exact hd _ h hk

lemma IsOrderly.request_mem_iff (hd : d.IsOrderly) {s : String} :
    ("request", .str s) ∈ d.members ↔ d.request = some s := by
  have hextra := hd.notMem_extra (k := "request") (by simp [fieldNames]) (.str s)
  simp [members, mem_optionalMember, hextra]

lemma IsOrderly.projectType_mem_iff (hd : d.IsOrderly) {s : String} :
    ("newProjectType", .str s) ∈ d.members ↔ d.projectType.join = some s := by
  have hextra := hd.notMem_extra (k := "newProjectType") (by simp [fieldNames]) (.str s)
  simp [members, mem_optionalMember, hextra]

lemma IsOrderly.projectPath_mem_iff (hd : d.IsOrderly) {s : String} :
    ("newProjectPath", .str s) ∈ d.members ↔ d.projectPath.join = some s := by
  have hextra := hd.notMem_extra (k := "newProjectPath") (by simp [fieldNames]) (.str s)
  simp [members, mem_optionalMember, hextra]

/-- The members without a field are those whose names have none. -/
lemma IsOrderly.filter_members (hd : d.IsOrderly) :
    (d.members.filter fun m => m.1 ∉ fieldNames) = d.extra := by
  have hoptional : ∀ k ∈ fieldNames, ∀ text : Option String,
      (optionalMember k text).filter (fun m => m.1 ∉ fieldNames) = [] := by
    intro k hk text
    rw [List.filter_eq_nil_iff]
    intro m hm
    obtain ⟨s, -, rfl⟩ := mem_optionalMember.1 hm
    simpa using hk
  have hextra : d.extra.filter (fun m => m.1 ∉ fieldNames) = d.extra := by
    rw [List.filter_eq_self]
    intro m hm
    simpa using hd m hm
  rw [members, List.filter_append, List.filter_append, List.filter_append,
    hoptional "request" (by simp [fieldNames]), hoptional "newProjectType" (by simp [fieldNames]),
    hoptional "newProjectPath" (by simp [fieldNames]), hextra]
  rfl

/-- The order of the members does not matter to the fields that they fill. -/
lemma eq_of_perm (hd : d.IsOrderly) (he : e.IsOrderly) (h : d.members.Perm e.members) :
    d.request = e.request ∧ d.projectType.join = e.projectType.join ∧
      d.projectPath.join = e.projectPath.join ∧ d.extra.Perm e.extra := by
  refine ⟨?_, ?_, ?_, ?_⟩
  · refine Option.ext fun s => ?_
    rw [← hd.request_mem_iff, ← he.request_mem_iff, h.mem_iff]
  · refine Option.ext fun s => ?_
    rw [← hd.projectType_mem_iff, ← he.projectType_mem_iff, h.mem_iff]
  · refine Option.ext fun s => ?_
    rw [← hd.projectPath_mem_iff, ← he.projectPath_mem_iff, h.mem_iff]
  · rw [← hd.filter_members, ← he.filter_members]
    exact h.filter _

/-- Nothing was found yet under a name. -/
def Lacks (d : Draft) (k : String) : Prop :=
  (k = "request" → d.request = none) ∧ (k = "newProjectType" → d.projectType = none) ∧
    (k = "newProjectPath" → d.projectPath = none)

/-- A text under a new name is kept, and no other name is taken by it. -/
lemma exists_add {k : String} {v : Value} (hnew : d.Lacks k)
    (hv : k ∈ fieldNames → ∃ s, v = .str s) :
    ∃ d', d.add (k, v) = .ok d' ∧ ∀ k', k' ≠ k → d.Lacks k' → d'.Lacks k' := by
  by_cases hfield : k ∈ fieldNames
  · obtain ⟨s, rfl⟩ := hv hfield
    simp only [fieldNames, List.mem_cons, List.not_mem_nil, or_false] at hfield
    rcases hfield with rfl | rfl | rfl
    · refine ⟨{ d with request := some s }, ?_, ?_⟩
      · simp [add, hnew.1 rfl, decodeText, Except.map]
      · intro k' hne hlacks
        exact ⟨fun h => absurd h hne, hlacks.2.1, hlacks.2.2⟩
    · refine ⟨{ d with projectType := some (some s) }, ?_, ?_⟩
      · simp [add, hnew.2.1 rfl, decodeOptionalText, decodeText, Except.map]
      · intro k' hne hlacks
        exact ⟨hlacks.1, fun h => absurd h hne, hlacks.2.2⟩
    · refine ⟨{ d with projectPath := some (some s) }, ?_, ?_⟩
      · simp [add, hnew.2.2 rfl, decodeOptionalText, decodeText, Except.map]
      · intro k' hne hlacks
        exact ⟨hlacks.1, hlacks.2.1, fun h => absurd h hne⟩
  · -- what has no field is kept in any case
    refine ⟨{ d with extra := d.extra ++ [(k, v)] }, ?_, fun k' _ hlacks => hlacks⟩
    simp only [fieldNames, List.mem_cons, List.not_mem_nil, or_false, not_or] at hfield
    simp [add, hfield]

/-- Members of different names are all kept. -/
lemma exists_foldlM {ms : List (String × Value)} (hnames : (ms.map (·.1)).Nodup)
    (hnew : ∀ m ∈ ms, d.Lacks m.1) (htexts : ∀ m ∈ ms, m.1 ∈ fieldNames → ∃ s, m.2 = .str s) :
    ∃ d', ms.foldlM add d = .ok d' := by
  induction ms generalizing d with
  | nil => exact ⟨d, rfl⟩
  | cons m ms ih =>
    rw [List.map_cons, List.nodup_cons] at hnames
    obtain ⟨hfresh, hrest⟩ := hnames
    obtain ⟨d₁, hadd, hkeeps⟩ :=
      exists_add (hnew m List.mem_cons_self) (htexts m List.mem_cons_self)
    have hnew₁ : ∀ x ∈ ms, d₁.Lacks x.1 := by
      intro x hx
      have hne : x.1 ≠ m.1 := by
        intro heq
        exact hfresh (heq ▸ List.mem_map_of_mem hx)
      exact hkeeps x.1 hne (hnew x (List.mem_cons_of_mem m hx))
    obtain ⟨d', hd'⟩ := ih hrest hnew₁ fun x hx => htexts x (List.mem_cons_of_mem m hx)
    refine ⟨d', ?_⟩
    rw [List.foldlM_cons, hadd]
    exact hd'

end Draft

variable {s : SubmitIdea}

/-- The fields of a submission as they are found in its members. -/
def draft (s : SubmitIdea) : Draft :=
  ⟨some s.request, some s.projectType, some s.projectPath, s.extra⟩

lemma members_draft (s : SubmitIdea) : s.draft.members = s.members := rfl

lemma mem_members {m : String × Value} (hm : m ∈ s.members) :
    m ∈ s.extra ∨ (m.1 ∈ fieldNames ∧ ∃ t, m.2 = .str t) := by
  rw [← members_draft, Draft.members, List.mem_append, List.mem_append, List.mem_append,
    mem_optionalMember, mem_optionalMember, mem_optionalMember] at hm
  rcases hm with ((⟨t, -, rfl⟩ | ⟨t, -, rfl⟩) | ⟨t, -, rfl⟩) | hm
  · exact Or.inr ⟨by simp [fieldNames], t, rfl⟩
  · exact Or.inr ⟨by simp [fieldNames], t, rfl⟩
  · exact Or.inr ⟨by simp [fieldNames], t, rfl⟩
  · exact Or.inl hm

/-- The members of a submission have different names. -/
lemma IsOrderly.nodup (hs : s.IsOrderly) : (s.members.map (·.1)).Nodup := by
  have hextra : (s.extra.map (·.1)).Nodup := hs.isSorted.nodup
  have hnew : ∀ k ∈ fieldNames, k ∉ s.extra.map (·.1) := by
    intro k hk hmem
    obtain ⟨m, hm, rfl⟩ := List.mem_map.1 hmem
    exact hs.notMem_fieldNames m hm hk
  have hrequest := hnew "request" (by simp [fieldNames])
  have htype := hnew "newProjectType" (by simp [fieldNames])
  have hpath := hnew "newProjectPath" (by simp [fieldNames])
  obtain ⟨request, _ | projectType, _ | projectPath, extra⟩ := s <;>
    simp_all [members, optionalMember]

/-- A submission is read from its members in any order. -/
theorem ofMembers_of_perm (hs : s.IsOrderly) {ms : List (String × Value)}
    (hperm : ms.Perm s.members) : ofMembers ms = .ok s := by
  have hmem : ∀ m ∈ ms, m ∈ s.extra ∨ m.1 ∈ fieldNames ∧ ∃ t, m.2 = .str t :=
    fun m hm => mem_members (hperm.mem_iff.1 hm)
  have htexts : ∀ m ∈ ms, m.1 ∈ fieldNames → ∃ t, m.2 = .str t := by
    intro m hm hfield
    rcases hmem m hm with hextra | ⟨-, ht⟩
    · exact absurd hfield (hs.notMem_fieldNames m hextra)
    · exact ht
  obtain ⟨d, hread⟩ := Draft.exists_foldlM (d := {}) ((hperm.map _).nodup_iff.2 hs.nodup)
    (fun _ _ => ⟨fun _ => rfl, fun _ => rfl, fun _ => rfl⟩) htexts
  -- none of the members is an absence, so the draft has all of them
  have hwithout : withoutAbsences ms = ms := by
    rw [withoutAbsences, List.filter_eq_self]
    intro m hm
    rw [decide_eq_true_eq]
    rintro ⟨hname, hnull⟩
    obtain ⟨t, ht⟩ := htexts m hm (by rcases hname with h | h <;> simp [fieldNames, h])
    rw [hnull] at ht
    cases ht
  have hmembers := Draft.members_foldlM hread
  rw [hwithout] at hmembers
  have horderly : d.IsOrderly := by
    intro m hm
    rw [Draft.extra_foldlM hread, List.nil_append, List.mem_filter] at hm
    simpa using hm.2
  obtain ⟨hrequest, htype, hpath, hextra⟩ :=
    Draft.eq_of_perm (e := s.draft) horderly hs.notMem_fieldNames (hmembers.trans hperm)
  have hsame : Members.ofList d.extra = s.extra := Members.ofList_eq_of_perm hextra hs.isSorted
  have hfinish : d.finish = .ok s := by
    rw [Draft.finish, hrequest, htype, hpath, hsame]
    rfl
  rw [ofMembers, hread]
  exact hfinish

/-- **A submission is read as it was written**, its members being put in order. -/
theorem decode_encode (hs : s.IsOrderly) : decode s.encode = .ok s :=
  ofMembers_of_perm hs (Members.ofList_perm hs.nodup)

/-- What was read has its members in order. -/
theorem isOrderly_of_decode {v : Value} (h : decode v = .ok s) : s.IsOrderly := by
  cases v with
  | obj ms =>
    obtain ⟨d, hread, hfinish⟩ := bind_eq_ok h
    obtain ⟨request, -, hfinish⟩ := bind_eq_ok hfinish
    cases hfinish
    refine ⟨Members.isSorted_ofList d.extra, ?_⟩
    intro m hm
    have hkept := Members.mem_of_mem_ofList hm
    rw [Draft.extra_foldlM hread, List.nil_append, List.mem_filter] at hkept
    simpa using hkept.2
  | _ => cases h

end SubmitIdea

/-! ## Payloads -/

/-- A payload that can be written so that all of it is read again. -/
def Payload.IsOrderly : Payload → Prop
  | .submitIdea s => s.IsOrderly
  | _ => True

namespace Kind

variable {k : Kind} {p : Payload}

/-- A payload that was read is of the kind that was asked for. -/
lemma kind_of_decode {v : Value} (h : k.decode v = .ok p) : p.kind = k := by
  cases k <;> obtain ⟨x, -, rfl⟩ := map_eq_ok h <;> rfl

/-- A payload that was read can be written. -/
lemma isOrderly_of_decode {v : Value} (h : k.decode v = .ok p) : p.IsOrderly := by
  cases k with
  | submitIdea =>
    obtain ⟨s, hs, rfl⟩ := map_eq_ok h
    exact SubmitIdea.isOrderly_of_decode hs
  | _ =>
    obtain ⟨x, -, rfl⟩ := map_eq_ok h
    trivial

/-- The data of a payload is read as that payload. -/
lemma decode_data (hp : p.IsOrderly) : p.kind.decode p.data = .ok p := by
  cases p with
  | submitIdea s => exact congrArg (·.map Payload.submitIdea) (SubmitIdea.decode_encode hp)
  | processLlm ms =>
    exact congrArg (·.map Payload.processLlm) (ChatMessage.decodeRequest_encode ms)
  | tokens t => exact congrArg (·.map Payload.tokens) t.decode_encode
  | updateCredentials t => exact congrArg (·.map Payload.updateCredentials) t.decode_encode
  | themeColors cs => exact congrArg (·.map Payload.themeColors) (decodeColors_encode cs)
  | close | pong | tokensRequest | ping => rfl
  | planStream plan | planCompleted plan => rfl
  | errorNotice text => rfl
  | tab name => rfl

lemma decodePayload_eq_ok_iff {payload : Option Value} :
    k.decodePayload payload = .ok p ↔ k.decode (payload.getD .null) = .ok p := by
  rw [decodePayload]
  cases k.decode (payload.getD .null) with
  | ok q => simp
  | error cause => simp

/-- **Every payload is read as it was written.**  What a kind reads from a payload is of that kind
and, written and read again, is the same; the same holds for every payload that has the members of a
submission in order.  A content that is a plain text and one that has parts are told apart by what
is written of them. -/
theorem decodePayload_encode :
    (∀ (k : Kind) (payload : Option Value) (p : Payload), k.decodePayload payload = .ok p →
      p.kind = k ∧ k.decodePayload p.encode = .ok p) ∧
    (∀ p : Payload, p.IsOrderly → p.kind.decodePayload p.encode = .ok p) ∧
    ∀ c : MessageContent, MessageContent.decode c.encode = .ok c ∧
      (∀ v s, MessageContent.decode v = .ok (.text s) ↔ v = .str s) ∧
      ∀ v ps, MessageContent.decode v = .ok (.parts ps) →
        ∃ vs, v = .arr vs ∧ vs.mapM MessagePart.decode? = some ps := by
  refine ⟨?_, ?_, ?_⟩
  · intro k payload p h
    have hread := decodePayload_eq_ok_iff.1 h
    obtain rfl := kind_of_decode hread
    exact ⟨rfl, decodePayload_eq_ok_iff.2 (decode_data (isOrderly_of_decode hread))⟩
  · intro p hp
    exact decodePayload_eq_ok_iff.2 (decode_data hp)
  · intro c
    exact ⟨c.decode_encode, fun _ _ => MessageContent.decode_eq_text_iff,
      fun _ _ => MessageContent.exists_of_decode_eq_parts⟩

/-- A submission with a null where a type may be and with a member of its own, and a conversation
with an empty list of parts beside an empty text. -/
theorem decodePayload_encode_submission :
    let s : SubmitIdea := ⟨"r", none, some "/p", [("a", .arr [.null])]⟩
    let v : Value := .obj [("a", .arr [.null]), ("newProjectPath", .str "/p"),
      ("newProjectType", .null), ("request", .str "r")]
    let p : Payload := .processLlm [⟨.user, .parts []⟩, ⟨.system, .text ""⟩]
    submitIdea.decodePayload (some v) = .ok (.submitIdea s) ∧
      submitIdea.decodePayload (some s.encode) = .ok (.submitIdea s) ∧
      (Payload.submitIdea s).IsOrderly ∧
      (Payload.submitIdea s).kind.decodePayload (Payload.submitIdea s).encode
        = .ok (.submitIdea s) ∧
      p.IsOrderly ∧ processLlm.decodePayload p.encode = .ok p := by
  intro s v p
  have hread : submitIdea.decodePayload (some v) = .ok (.submitIdea s) := rfl
  have hs : (Payload.submitIdea s).IsOrderly := by
    refine ⟨?_, ?_⟩
    · exact List.pairwise_singleton _ _
    · intro m hm
      obtain rfl := List.mem_singleton.1 hm
      simp [SubmitIdea.fieldNames]
  exact ⟨hread, (decodePayload_encode.1 _ _ _ hread).2, hs, decodePayload_encode.2.1 _ hs, trivial,
    decodePayload_encode.2.1 p trivial⟩

end Kind

end WebviewBridge
