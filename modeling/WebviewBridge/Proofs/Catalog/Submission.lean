import Mathlib.Data.List.Perm.Basic
import WebviewBridge.Catalog.SubmitIdea
import WebviewBridge.Proofs.Json.Admitted

/-!
# Nothing of a submission is lost

A submission keeps all members that it was read from, whatever their names.  Main statements:
written again it is the object that it came from, without the members that were null where a member
is optional (`SubmitIdea.encode_of_decode`), and what else is known about its members
(`SubmitIdea.portable_of_decode`) is enough to read it from any text (`SubmitIdea.Portable.reads`).
-/

namespace WebviewBridge

open Json Catalog

namespace Json.Members

/-- A member of a new name comes in among the others. -/
lemma insert_perm {k : String} {v : Value} {ms : Members} (h : ∀ m ∈ ms, m.1 ≠ k) :
    (insert k v ms).Perm ((k, v) :: ms) := by
  induction ms with
  | nil => exact .refl _
  | cons m rest ih =>
    obtain ⟨k', v'⟩ := m
    have hk : k ≠ k' := fun e => h (k', v') List.mem_cons_self e.symm
    rw [insert]
    split
    · exact .refl _
    · exact ((ih fun m hm => h m (List.mem_cons_of_mem _ hm)).cons (k', v')).trans (.swap ..)

lemma foldl_insert_perm {ms acc : Members} (h : ((acc ++ ms).map (·.1)).Nodup) :
    (ms.foldl (fun acc m => insert m.1 m.2 acc) acc).Perm (acc ++ ms) := by
  induction ms generalizing acc with
  | nil => rw [List.append_nil]; exact .refl _
  | cons m ms ih =>
    have hperm : (insert m.1 m.2 acc ++ ms).Perm (acc ++ m :: ms) := by
      have hm : ∀ x ∈ acc, x.1 ≠ m.1 := by
        rw [List.map_append, List.map_cons] at h
        intro x hx
        exact (List.nodup_append.1 h).2.2 _ (List.mem_map_of_mem hx) _ List.mem_cons_self
      exact ((insert_perm hm).append_right ms).trans List.perm_middle.symm
    exact (ih ((hperm.map _).nodup_iff.2 h)).trans hperm

/-- Members of different keys are put in order, and all of them are kept. -/
lemma ofList_perm {ms : Members} (h : (ms.map (·.1)).Nodup) : (ofList ms).Perm ms := by
  have hall : ((([] : Members) ++ ms).map (·.1)).Nodup := h
  exact foldl_insert_perm hall

/-- Sorted members have different keys. -/
lemma IsSorted.nodup {ms : Members} (h : ms.IsSorted) : (ms.map (·.1)).Nodup := by
  rw [List.nodup_iff_pairwise_ne, List.pairwise_map]
  exact h.imp fun hlt => String.ne_of_lt hlt

/-- Members in any order become the sorted members that they are. -/
theorem ofList_eq_of_perm {ms sorted : Members} (hperm : ms.Perm sorted) (h : sorted.IsSorted) :
    ofList ms = sorted := by
  have hms : (ofList ms).Perm ms := ofList_perm ((hperm.map (·.1)).nodup_iff.2 h.nodup)
  exact (hms.trans hperm).eq_of_pairwise
    (fun a b _ _ hab hba => absurd hba (String.lt_asymm hab)) (isSorted_ofList ms) h

end Json.Members

/-! ## Reading a submission and writing it again -/

namespace SubmitIdea

/-- The names of the members that a submission has fields for. -/
def fieldNames : List String := ["request", "newProjectType", "newProjectPath"]

/-- Whether a member says that an optional field is absent. -/
def IsAbsence (m : String × Value) : Prop :=
  (m.1 = "newProjectType" ∨ m.1 = "newProjectPath") ∧ m.2 = .null

instance : DecidablePred IsAbsence := fun _ => inferInstanceAs (Decidable (_ ∧ _))

/-- The members that say something. -/
def withoutAbsences (ms : Members) : Members := ms.filter fun m => ¬IsAbsence m

namespace Draft

/-- The members that the fields found are written as. -/
def members (d : Draft) : List (String × Value) :=
  optionalMember "request" d.request ++ optionalMember "newProjectType" d.projectType.join
    ++ optionalMember "newProjectPath" d.projectPath.join ++ d.extra

lemma decodeText_eq_ok {v : Value} {s : String} (h : decodeText v = .ok s) : v = .str s := by
  cases v with
  | str t =>
    cases h
    rfl
  | _ => cases h

lemma decodeOptionalText_eq_ok {v : Value} {s : Option String}
    (h : decodeOptionalText v = .ok s) : v = .ofString? s := by
  cases v with
  | null =>
    cases h
    rfl
  | str t =>
    cases h
    rfl
  | _ => cases h

/-- An optional field that was not found yet comes in among the others. -/
lemma perm_optionalMember {k : String} {v : Value} {s : Option String} (hv : v = .ofString? s)
    (hk : k = "newProjectType" ∨ k = "newProjectPath") (before after : List (String × Value)) :
    (before ++ optionalMember k s ++ after).Perm (before ++ after ++ withoutAbsences [(k, v)]) := by
  subst hv
  cases s with
  | none =>
    have habsent : IsAbsence (k, .ofString? none) := ⟨hk, rfl⟩
    simp [optionalMember, withoutAbsences, habsent]
  | some s =>
    have hpresent : ¬IsAbsence (k, .ofString? (some s)) := fun h => nomatch h.2
    simp only [optionalMember, withoutAbsences, List.filter_cons, hpresent, not_false_eq_true,
      decide_true, if_true, List.filter_nil, List.append_assoc]
    exact (List.perm_append_comm).append_left before

/-- A member that was kept is written again, unless it says that a field is absent. -/
lemma members_add {d d' : Draft} {m : String × Value} (h : d.add m = .ok d') :
    d'.members.Perm (d.members ++ withoutAbsences [m]) := by
  obtain ⟨k, v⟩ := m
  obtain ⟨request, projectType, projectPath, extra⟩ := d
  rw [add] at h
  simp only at h
  -- a member with a field goes where nothing was found before, all others to the end
  split at h
  · next hk =>
    split at h
    · cases h
    · next hnew =>
      cases request with
      | some r => exact absurd rfl hnew
      | none =>
        obtain ⟨s, hs, rfl⟩ := map_eq_ok h
        rw [decodeText_eq_ok hs, hk]
        exact (List.perm_append_singleton _ _).symm
  split at h
  · next hk =>
    split at h
    · cases h
    · next hnew =>
      cases projectType with
      | some t => exact absurd rfl hnew
      | none =>
        obtain ⟨s, hs, rfl⟩ := map_eq_ok h
        have hperm := perm_optionalMember (decodeOptionalText_eq_ok hs) (Or.inl hk)
          (optionalMember "request" request)
          (optionalMember "newProjectPath" projectPath.join ++ extra)
        rw [hk] at hperm ⊢
        simpa [members, optionalMember] using hperm
  split at h
  · next hk =>
    split at h
    · cases h
    · next hnew =>
      cases projectPath with
      | some t => exact absurd rfl hnew
      | none =>
        obtain ⟨s, hs, rfl⟩ := map_eq_ok h
        have hperm := perm_optionalMember (decodeOptionalText_eq_ok hs) (Or.inr hk)
          (optionalMember "request" request ++ optionalMember "newProjectType" projectType.join)
          extra
        rw [hk] at hperm ⊢
        simpa [members, optionalMember] using hperm
  · next htype hpath =>
    cases h
    have hpresent : ¬IsAbsence (k, v) := fun h => h.1.elim htype hpath
    simp [members, withoutAbsences, hpresent]

lemma members_foldlM {ms : List (String × Value)} {d d' : Draft}
    (h : ms.foldlM add d = .ok d') : d'.members.Perm (d.members ++ withoutAbsences ms) := by
  induction ms generalizing d with
  | nil =>
    cases h
    simp [withoutAbsences]
  | cons m ms ih =>
    rw [List.foldlM_cons] at h
    obtain ⟨d₁, hadd, hrest⟩ := bind_eq_ok h
    refine (ih hrest).trans ?_
    have hone := (members_add hadd).append_right (withoutAbsences ms)
    rwa [List.append_assoc, withoutAbsences, withoutAbsences, ← List.filter_append] at hone

/-- The members without a field of their own are kept in order. -/
lemma extra_add {d d' : Draft} {m : String × Value} (h : d.add m = .ok d') :
    d'.extra = d.extra ++ [m].filter fun m => m.1 ∉ fieldNames := by
  obtain ⟨k, v⟩ := m
  rw [add] at h
  split at h
  · next hk =>
    split at h
    · cases h
    · obtain ⟨s, -, rfl⟩ := map_eq_ok h
      simp [fieldNames, hk]
  split at h
  · next hk =>
    split at h
    · cases h
    · obtain ⟨s, -, rfl⟩ := map_eq_ok h
      simp [fieldNames, hk]
  split at h
  · next hk =>
    split at h
    · cases h
    · obtain ⟨s, -, rfl⟩ := map_eq_ok h
      simp [fieldNames, hk]
  · next hrequest htype hpath =>
    cases h
    simp [fieldNames, hrequest, htype, hpath]

lemma extra_foldlM {ms : List (String × Value)} {d d' : Draft} (h : ms.foldlM add d = .ok d') :
    d'.extra = d.extra ++ ms.filter fun m => m.1 ∉ fieldNames := by
  induction ms generalizing d with
  | nil =>
    cases h
    simp
  | cons m ms ih =>
    rw [List.foldlM_cons] at h
    obtain ⟨d₁, hadd, hrest⟩ := bind_eq_ok h
    rw [ih hrest, extra_add hadd, List.append_assoc, ← List.filter_append, List.singleton_append]

end Draft

variable {s : SubmitIdea} {ms : Members}

/-- The members without a field of their own are those of the object. -/
lemma extra_of_decode (hsorted : ms.IsSorted) (h : decode (.obj ms) = .ok s) :
    s.extra = ms.filter fun m => m.1 ∉ fieldNames := by
  obtain ⟨d, hread, hfinish⟩ := bind_eq_ok h
  obtain ⟨request, -, hfinish⟩ := bind_eq_ok hfinish
  cases hfinish
  rw [Draft.extra_foldlM hread, List.nil_append]
  exact Members.ofList_of_isSorted (hsorted.sublist List.filter_sublist)

/-- **A submission is written as the object that it was read from**, without the members that say
that something optional is absent. -/
theorem encode_of_decode (hsorted : ms.IsSorted) (h : decode (.obj ms) = .ok s) :
    s.encode = .obj (withoutAbsences ms) := by
  have hextra := extra_of_decode hsorted h
  obtain ⟨d, hread, hfinish⟩ := bind_eq_ok h
  obtain ⟨request, hrequest, hfinish⟩ := bind_eq_ok hfinish
  have hsome : d.request = some request := by
    cases hd : d.request with
    | none =>
      rw [hd] at hrequest
      cases hrequest
    | some r =>
      rw [hd] at hrequest
      cases hrequest
      rfl
  cases hfinish
  have hperm := Draft.members_foldlM hread
  have hmembers : d.members = SubmitIdea.members
      ⟨request, d.projectType.join, d.projectPath.join, Members.ofList d.extra⟩ := by
    have hsame : d.extra = Members.ofList d.extra :=
      (Draft.extra_foldlM hread).trans hextra.symm
    rw [Draft.members, SubmitIdea.members, hsome, ← hsame]
    rfl
  rw [hmembers] at hperm
  -- the members of the object were in order, and putting them in order again finds that order
  exact congrArg Value.obj
    (Members.ofList_eq_of_perm hperm (hsorted.sublist List.filter_sublist))

/-! ## Reading a submission from a text -/

/-- The numbers of the members without a field are integers. -/
def IsIntegral (s : SubmitIdea) : Prop := ∀ m ∈ s.extra, m.2.IsIntegral

/-- What was read from an object of integers has integers only. -/
lemma isIntegral_of_decode (hsorted : ms.IsSorted) (h : decode (.obj ms) = .ok s)
    (hint : (Value.obj ms).IsIntegral) : s.IsIntegral := by
  intro m hm
  rw [extra_of_decode hsorted h] at hm
  exact Value.membersIntegral_iff.1 hint m (List.mem_filter.1 hm).1

/-- A submission whose members without a field are sorted and can be read by a reader with some
room. -/
structure Portable (s : SubmitIdea) (room : Nat) : Prop where
  isSorted : s.extra.IsSorted
  notMem_fieldNames : ∀ m ∈ s.extra, m.1 ∉ fieldNames
  portable : ∀ m ∈ s.extra, m.2.Portable room

/-- A submission of integers that was read from a value can be written and read again. -/
theorem portable_of_decode {v : Value} {room : Nat} (hv : v.Fits (room + 1))
    (h : decode v = .ok s) (hint : s.IsIntegral) : s.Portable room := by
  cases v with
  | obj ms =>
    have hextra := extra_of_decode hv.1.1 h
    refine ⟨?_, ?_, fun m hm => ⟨?_, hint m hm⟩⟩
    · rw [hextra]
      exact hv.1.1.sublist List.filter_sublist
    · rw [hextra]
      exact fun m hm => by simpa using (List.mem_filter.1 hm).2
    · rw [hextra] at hm
      exact hv.of_mem (List.mem_filter.1 hm).1
  | _ => cases h

/-- The members without a field are kept in the order in which they come. -/
lemma gathers_extra {room : Nat} {extra : List (String × Value)}
    (hnames : ∀ m ∈ extra, m.1 ∉ fieldNames) (hportable : ∀ m ∈ extra, m.2.Portable room)
    (d : Draft) : layout.Gathers room d extra { d with extra := d.extra ++ extra } := by
  induction extra generalizing d with
  | nil =>
    rw [List.append_nil]
    exact .nil d
  | cons m extra ih =>
    have hfield : layout.fields.find? (·.hasName m.1) = none := by
      have hm := hnames m List.mem_cons_self
      simp only [fieldNames, List.mem_cons, List.not_mem_nil, or_false, not_or] at hm
      simp [layout, Field.hasName, hm]
    refine .other hfield rfl (hportable m List.mem_cons_self).reads ?_
    have hrest := ih (fun x hx => hnames x (List.mem_cons_of_mem _ hx))
      (fun x hx => hportable x (List.mem_cons_of_mem _ hx)) { d with extra := d.extra ++ [m] }
    simpa only [List.append_assoc, List.singleton_append] using hrest

/-- The member of an optional text fills its field; where there is none, the field stays empty. -/
lemma gathers_optional (name : String) (keep : Option String → Draft → Draft)
    {f : Json.Field Draft} (hfield : layout.fields.find? (·.hasName name) = some f)
    (hread : f.read = fun room c => (orNull textValue room c).bind fun r => .ok (keep r.1, r.2))
    (room : Nat) {d : Draft} (hfound : f.found d = false) (text : Option String) :
    layout.Gathers room d (optionalMember name text) (text.elim d fun t => keep (some t) d) := by
  cases text with
  | none => exact .nil d
  | some t =>
    have hvalue := (reads_optionalText t room).bind keep
    exact .field hfield hfound (by rwa [hread]) (.nil _)

/-- **A submission is read from any text of the object of its members.** -/
theorem Portable.reads {room : Nat} (hs : s.Portable room) :
    Reads (layout.read (room + 1)) (.obj s.members) s := by
  obtain ⟨request, projectType, projectPath, extra⟩ := s
  have hrequest := (reads_textValue request room).bind fun x (d : Draft) =>
    { d with request := some x }
  have hfirst : layout.Gathers room {} [("request", .str request)] { request := some request } :=
    .field (f := layout.fields[0]) rfl rfl hrequest (.nil _)
  have htype := hfirst.append <| gathers_optional "newProjectType"
    (fun x d => { d with projectType := some x }) rfl rfl room rfl projectType
  have hpath := htype.append <| gathers_optional "newProjectPath"
    (fun x d => { d with projectPath := some x }) rfl rfl room (by cases projectType <;> rfl)
    projectPath
  have hgathers := hpath.append (gathers_extra hs.notMem_fieldNames hs.portable _)
  have hsame : Members.ofList extra = extra := Members.ofList_of_isSorted hs.isSorted
  refine hgathers.reads ?_
  cases projectType <;> cases projectPath <;>
    exact congrArg (fun e => Except.ok (SubmitIdea.mk request _ _ e)) hsame

end SubmitIdea

end WebviewBridge
