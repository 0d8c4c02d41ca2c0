import WebviewBridge.Config.Basic
import WebviewBridge.Proofs.Json.Records

/-!
# Settings in any order

A text of a record need not write all of its fields.  Each member that it does write sets one thing
(`Json.Layout.Sets`), and members of different names, in any order, are read as what the defaults
become by setting one after the other (`Json.Layout.reads_settings`).  A configuration is made of
four such records, one of them around the others.  Main statement: `BridgeConfig.parse_settings`;
a configuration that was written is the case where everything is set (`BridgeConfig.parse_fileText`).
-/

namespace WebviewBridge

open Json

namespace Json

/-! ## Numbers -/

lemma reads_readUInt16 (n : UInt16) (room : Nat) : Reads (readUInt16 room) (.nat n.toNat) n := by
  have hn : n.toNat ≤ UInt16.size - 1 := Nat.le_sub_one_of_lt n.toNat_lt
  have hread := (reads_naturalValue hn (by decide) "u16" room).map UInt16.ofNat
  rwa [UInt16.ofNat_toNat] at hread

lemma reads_readUInt32 (n : UInt32) (room : Nat) : Reads (readUInt32 room) (.nat n.toNat) n := by
  have hn : n.toNat ≤ UInt32.size - 1 := Nat.le_sub_one_of_lt n.toNat_lt
  have hread := (reads_naturalValue hn (by decide) "u32" room).map UInt32.ofNat
  rwa [UInt32.ofNat_toNat] at hread

lemma reads_readUInt64 (n : UInt64) (room : Nat) : Reads (readUInt64 room) (.nat n.toNat) n := by
  have hn : n.toNat ≤ UInt64.size - 1 := Nat.le_sub_one_of_lt n.toNat_lt
  have hread := (reads_naturalValue hn (by decide) "u64" room).map UInt64.ofNat
  rwa [UInt64.ofNat_toNat] at hread

/-- A text that may be absent is read back, present or absent. -/
lemma reads_ofString? (text : Option String) (room : Nat) :
    Reads (orNull textValue room) (Value.ofString? text) text := by
  cases text with
  | none => exact reads_orNull_null textValue
  | some s => exact reads_optionalText s room

/-! ## Members that set something -/

variable {σ α ι : Type}

/-- A member sets something in a record: it fills one field, leaves the others as they are, and
whatever the record would have been without it, it is that with one thing changed. -/
structure Layout.Sets (l : Layout σ α) (room : Nat) (m : String × Value) (change : α → α)
    (f : Field σ) (keep : σ → σ) : Prop where
  find_eq : l.fields.find? (·.hasName m.1) = some f
  name_eq : f.name = m.1
  reads : Reads (f.read room) m.2 keep
  others : ∀ g ∈ l.fields, g.name ≠ f.name → ∀ s, g.found (keep s) = g.found s
  finish : ∀ s x, l.finish s = .ok x → l.finish (keep s) = .ok (change x)

variable {l : Layout σ α} {room : Nat} {member : ι → String × Value} {set : α → ι → α}
  {settings : List ι}

/-- Settings of different names are gathered, each in a field that is still empty. -/
lemma Layout.exists_gathers {s : σ} {x : α}
    (hsets : ∀ i ∈ settings, ∃ f keep, l.Sets room (member i) (set · i) f keep)
    (hnames : (settings.map fun i => (member i).1).Nodup)
    (hempty : ∀ i ∈ settings, ∀ f ∈ l.fields, f.name = (member i).1 → f.found s = false)
    (hs : l.finish s = .ok x) :
    ∃ s', l.Gathers room s (settings.map member) s' ∧
      l.finish s' = .ok (settings.foldl set x) := by
  induction settings generalizing s x with
  | nil => exact ⟨s, .nil s, hs⟩
  | cons i rest ih =>
    obtain ⟨f, keep, hset⟩ := hsets i List.mem_cons_self
    have hf : f ∈ l.fields := List.mem_of_find?_eq_some hset.find_eq
    rw [List.map_cons, List.nodup_cons] at hnames
    obtain ⟨hnew, hnames⟩ := hnames
    -- what is set here is not set again
    have hempty' : ∀ j ∈ rest, ∀ g ∈ l.fields, g.name = (member j).1 →
        g.found (keep s) = false := by
      intro j hj g hg hname
      have hne : g.name ≠ f.name := by
        intro h
        rw [hname, hset.name_eq] at h
        exact hnew (List.mem_map.2 ⟨j, hj, h⟩)
      rw [hset.others g hg hne]
      exact hempty j (List.mem_cons_of_mem i hj) g hg hname
    obtain ⟨s', hgathers, hfinish⟩ := ih (fun j hj => hsets j (List.mem_cons_of_mem i hj)) hnames
      hempty' (hset.finish s x hs)
    have hfound : f.found s = false := hempty i List.mem_cons_self f hf hset.name_eq
    exact ⟨s', .field hset.find_eq hfound hset.reads hgathers, hfinish⟩

/-- **Settings of different names, in any order, are read as what the defaults become.** -/
theorem Layout.reads_settings {x : α}
    (hsets : ∀ i ∈ settings, ∃ f keep, l.Sets room (member i) (set · i) f keep)
    (hnames : (settings.map fun i => (member i).1).Nodup)
    (hempty : ∀ f ∈ l.fields, f.found l.empty = false) (hdefault : l.finish l.empty = .ok x) :
    Reads (l.read (room + 1)) (.obj (settings.map member)) (settings.foldl set x) := by
  obtain ⟨s, hgathers, hfinish⟩ :=
    Layout.exists_gathers hsets hnames (fun _ _ f hf _ => hempty f hf) hdefault
  exact hgathers.reads hfinish

end Json

/-! ## The sections of a configuration -/

/-- Something that the host's section can set. -/
inductive HostSetting where
  | port (n : UInt16)
  | authToken (token : Option String)
  | heartbeatSecs (n : UInt64)

/-- Something that the messengers' section can set. -/
inductive MessagingSetting where
  | responseTimeoutMs (n : UInt64)
  | unavailable (policy : UnavailablePolicy)
  | connectTimeoutMs (n : UInt64)

/-- Something that the creator's section can set. -/
inductive CreatorSetting where
  | cacheMaxAgeSecs (n : UInt64)

namespace HostSetting

/-- The member that a setting is written as. -/
def member : HostSetting → String × Value
  | port n => ("port", .nat n.toNat)
  | authToken token => ("auth_token", Value.ofString? token)
  | heartbeatSecs n => ("heartbeat_interval_secs", .nat n.toNat)

/-- The section with one thing set. -/
def set (c : HostConfig) : HostSetting → HostConfig
  | port n => { c with port := n }
  | authToken token => { c with authToken := token }
  | heartbeatSecs n => { c with heartbeatSecs := n }

lemma exists_sets (room : Nat) (i : HostSetting) :
    ∃ f keep, HostConfig.layout.Sets room i.member (set · i) f keep := by
  cases i with
  | port n =>
    have hread := (reads_readUInt16 n room).map fun x (d : HostConfig.Draft) =>
      { d with port := some x }
    refine ⟨HostConfig.layout.fields[0], _, rfl, rfl, hread, ?_, ?_⟩
    · simp [HostConfig.layout]
    · rintro s x ⟨⟩
      rfl
  | authToken token =>
    have hread := (reads_ofString? token room).map fun x (d : HostConfig.Draft) =>
      { d with authToken := some x }
    refine ⟨HostConfig.layout.fields[1], _, rfl, rfl, hread, ?_, ?_⟩
    · simp [HostConfig.layout]
    · rintro s x ⟨⟩
      rfl
  | heartbeatSecs n =>
    have hread := (reads_readUInt64 n room).map fun x (d : HostConfig.Draft) =>
      { d with heartbeatSecs := some x }
    refine ⟨HostConfig.layout.fields[2], _, rfl, rfl, hread, ?_, ?_⟩
    · simp [HostConfig.layout]
    · rintro s x ⟨⟩
      rfl

end HostSetting

namespace MessagingSetting

/-- The member that a setting is written as. -/
def member : MessagingSetting → String × Value
  | responseTimeoutMs n => ("response_timeout_ms", .nat n.toNat)
  | unavailable policy => ("unavailable_transport", .str policy.name)
  | connectTimeoutMs n => ("connect_timeout_ms", .nat n.toNat)

/-- The section with one thing set. -/
def set (c : MessagingConfig) : MessagingSetting → MessagingConfig
  | responseTimeoutMs n => { c with responseTimeoutMs := n }
  | unavailable policy => { c with unavailable := policy }
  | connectTimeoutMs n => { c with connectTimeoutMs := n }

lemma exists_sets (room : Nat) (i : MessagingSetting) :
    ∃ f keep, MessagingConfig.layout.Sets room i.member (set · i) f keep := by
  cases i with
  | responseTimeoutMs n =>
    have hread := (reads_readUInt64 n room).map fun x (d : MessagingConfig.Draft) =>
      { d with responseTimeoutMs := some x }
    refine ⟨MessagingConfig.layout.fields[0], _, rfl, rfl, hread, ?_, ?_⟩
    · simp [MessagingConfig.layout]
    · rintro s x ⟨⟩
      rfl
  | unavailable policy =>
    have hname : UnavailablePolicy.names.lookup policy.name = some policy := by
      cases policy <;> decide
    have hread := (reads_nameValue hname room).map fun x (d : MessagingConfig.Draft) =>
      { d with unavailable := some x }
    refine ⟨MessagingConfig.layout.fields[1], _, rfl, rfl, hread, ?_, ?_⟩
    · simp [MessagingConfig.layout]
    · rintro s x ⟨⟩
      rfl
  | connectTimeoutMs n =>
    have hread := (reads_readUInt64 n room).map fun x (d : MessagingConfig.Draft) =>
      { d with connectTimeoutMs := some x }
    refine ⟨MessagingConfig.layout.fields[2], _, rfl, rfl, hread, ?_, ?_⟩
    · simp [MessagingConfig.layout]
    · rintro s x ⟨⟩
      rfl

end MessagingSetting

namespace CreatorSetting

/-- The member that a setting is written as. -/
def member : CreatorSetting → String × Value
  | cacheMaxAgeSecs n => ("cache_max_age_secs", .nat n.toNat)

/-- The section with one thing set. -/
def set (c : CreatorConfig) : CreatorSetting → CreatorConfig
  | cacheMaxAgeSecs n => { c with cacheMaxAgeSecs := n }

lemma exists_sets (room : Nat) (i : CreatorSetting) :
    ∃ f keep, CreatorConfig.layout.Sets room i.member (set · i) f keep := by
  cases i with
  | cacheMaxAgeSecs n =>
    have hread := (reads_readUInt64 n room).map fun x (_ : Option UInt64) => some x
    refine ⟨CreatorConfig.layout.fields[0], _, rfl, rfl, hread, ?_, ?_⟩
    · simp [CreatorConfig.layout]
    · rintro s x ⟨⟩
      rfl

end CreatorSetting

/-! ## Configurations -/

/-- Something that a configuration can set: its version, or what a section sets. -/
inductive Setting where
  | version (n : UInt32)
  | host (settings : List HostSetting)
  | messaging (settings : List MessagingSetting)
  | creator (settings : List CreatorSetting)

namespace Setting

/-- The member that a setting is written as. -/
def member : Setting → String × Value
  | version n => ("version", .nat n.toNat)
  | host settings => ("host", .obj (settings.map HostSetting.member))
  | messaging settings => ("messaging", .obj (settings.map MessagingSetting.member))
  | creator settings => ("creator", .obj (settings.map CreatorSetting.member))

/-- The configuration with one thing set; what a section leaves out is the default. -/
def set (c : BridgeConfig) : Setting → BridgeConfig
  | version n => { c with version := n }
  | host settings => { c with host := settings.foldl HostSetting.set {} }
  | messaging settings => { c with messaging := settings.foldl MessagingSetting.set {} }
  | creator settings => { c with creator := settings.foldl CreatorSetting.set {} }

/-- A section sets nothing twice. -/
def IsSingle : Setting → Prop
  | version _ => True
  | host settings => (settings.map (·.member.1)).Nodup
  | messaging settings => (settings.map (·.member.1)).Nodup
  | creator settings => (settings.map (·.member.1)).Nodup

lemma exists_sets (room : Nat) {i : Setting} (hi : i.IsSingle) :
    ∃ f keep, BridgeConfig.layout.Sets (room + 1) i.member (set · i) f keep := by
  cases i with
  | version n =>
    have hread := (reads_readUInt32 n (room + 1)).map fun x (d : BridgeConfig.Draft) =>
      { d with version := some x }
    refine ⟨BridgeConfig.layout.fields[0], _, rfl, rfl, hread, ?_, ?_⟩
    · simp [BridgeConfig.layout]
    · rintro s x ⟨⟩
      rfl
  | host settings =>
    have hread := Layout.reads_settings (x := {}) (fun i _ => HostSetting.exists_sets room i) hi
      (by simp [HostConfig.layout]) rfl
    have hkeep := hread.map fun x (d : BridgeConfig.Draft) => { d with host := some x }
    refine ⟨BridgeConfig.layout.fields[1], _, rfl, rfl, hkeep, ?_, ?_⟩
    · simp [BridgeConfig.layout]
    · rintro s x ⟨⟩
      rfl
  | messaging settings =>
    have hread := Layout.reads_settings (x := {}) (fun i _ => MessagingSetting.exists_sets room i)
      hi (by simp [MessagingConfig.layout]) rfl
    have hkeep := hread.map fun x (d : BridgeConfig.Draft) => { d with messaging := some x }
    refine ⟨BridgeConfig.layout.fields[2], _, rfl, rfl, hkeep, ?_, ?_⟩
    · simp [BridgeConfig.layout]
    · rintro s x ⟨⟩
      rfl
  | creator settings =>
    have hread := Layout.reads_settings (x := {}) (fun i _ => CreatorSetting.exists_sets room i) hi
      (by simp [CreatorConfig.layout]) rfl
    have hkeep := hread.map fun x (d : BridgeConfig.Draft) => { d with creator := some x }
    refine ⟨BridgeConfig.layout.fields[3], _, rfl, rfl, hkeep, ?_, ?_⟩
    · simp [BridgeConfig.layout]
    · rintro s x ⟨⟩
      rfl

end Setting

namespace BridgeConfig

/-- The configuration that some settings make of the defaults. -/
def ofSettings (settings : List Setting) : BridgeConfig := settings.foldl Setting.set {}

/-- The texts that write settings, each once and in this order, with white space anywhere. -/
structure Writes (settings : List Setting) (text : String) : Prop where
  nodup : (settings.map (·.member.1)).Nodup
  isSingle : ∀ i ∈ settings, i.IsSingle
  exists_text : ∃ w cs w', IsBlank w ∧ (Value.obj (settings.map Setting.member)).IsText cs ∧
    IsBlank w' ∧ text = String.ofList (w ++ cs ++ w')

/-- **A text of some settings is read as what they make of the defaults.** -/
theorem parse_settings {settings : List Setting} {text : String} (h : Writes settings text) :
    parse text = .ok (ofSettings settings) := by
  obtain ⟨w, cs, w', hw, hcs, hw', rfl⟩ := h.exists_text
  have hread : Reads (BridgeConfig.layout.read depthLimit) _ (ofSettings settings) :=
    Layout.reads_settings (fun i hi => Setting.exists_sets 125 (h.isSingle i hi)) h.nodup
      (by simp [BridgeConfig.layout]) rfl
  exact hread.readText_between hw hcs hw'

/-- Everything that a configuration is made of, as settings. -/
def settings (c : BridgeConfig) : List Setting :=
  [.version c.version,
    .host [.port c.host.port, .authToken c.host.authToken, .heartbeatSecs c.host.heartbeatSecs],
    .messaging [.responseTimeoutMs c.messaging.responseTimeoutMs,
      .unavailable c.messaging.unavailable, .connectTimeoutMs c.messaging.connectTimeoutMs],
    .creator [.cacheMaxAgeSecs c.creator.cacheMaxAgeSecs]]

/-- The file of a configuration sets everything. -/
lemma writes_fileText (c : BridgeConfig) : Writes c.settings (Value.obj c.members).pretty := by
  have hnames : ["version", "host", "messaging", "creator"].Nodup := by decide
  have hhost : ["port", "auth_token", "heartbeat_interval_secs"].Nodup := by decide
  have hmessaging : ["response_timeout_ms", "unavailable_transport", "connect_timeout_ms"].Nodup := by
    decide
  refine ⟨hnames, ?_, ?_⟩
  · intro i hi
    simp only [settings, List.mem_cons, List.not_mem_nil, or_false] at hi
    rcases hi with rfl | rfl | rfl | rfl
    · trivial
    · exact hhost
    · exact hmessaging
    · exact List.pairwise_singleton _ _
  · refine ⟨[], _, [], isBlank_nil, Value.isText_prettyChars 0 _, isBlank_nil, ?_⟩
    rw [List.nil_append, List.append_nil]
    rfl

end BridgeConfig

end WebviewBridge
