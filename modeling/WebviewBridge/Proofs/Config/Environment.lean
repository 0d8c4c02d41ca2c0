import Mathlib.Tactic.Lemma
import WebviewBridge.App.Settings
import WebviewBridge.App.Variables
import WebviewBridge.Proofs.Except

/-!
# The configuration under its variables

The application starts from the configuration of its file, or from the defaults when there is
nothing of use in the file, and three variables replace one field each.  Applying them is one
computation that may fail (`BridgeConfig.result_applyOverrides`), and each of its parts is described
by the texts that it accepts (`numberOverride_eq_ok_iff`).  Main statement: `loadConfig_governed`.
-/

namespace WebviewBridge

/-! ## Numbers -/

/-- A text writes a number when it is, between white space, an optional plus sign and digits of
that value. -/
def WritesNumber (text : String) (n : Nat) : Prop :=
  ∃ ds : List Char, ds ≠ [] ∧ (∀ c ∈ ds, c.isDigit) ∧ Nat.ofDigitChars 10 ds 0 = n ∧
    (Text.trimChars text.toList = ds ∨ Text.trimChars text.toList = '+' :: ds)

lemma le_ofDigitChars (cs : List Char) (n : Nat) : n ≤ Nat.ofDigitChars 10 cs n := by
  induction cs generalizing n with
  | nil => exact Nat.le_refl n
  | cons c cs ih =>
    rw [Nat.ofDigitChars_cons]
    exact Nat.le_trans (by omega) (ih _)

/-- Digits are read unless their value is above the limit.  It is enough that no front of them is,
because the value only grows. -/
lemma parseDigits_eq_ok_iff {limit n m : Nat} {cs : List Char} (hn : n ≤ limit) :
    parseDigits limit n cs = .ok m ↔
      (∀ c ∈ cs, c.isDigit) ∧ Nat.ofDigitChars 10 cs n = m ∧ m ≤ limit := by
  induction cs generalizing n with
  | nil =>
    rw [parseDigits, Except.ok.injEq, Nat.ofDigitChars_nil]
    constructor
    · rintro rfl
      exact ⟨by simp, rfl, hn⟩
    · rintro ⟨-, h, -⟩
      exact h
  | cons c cs ih =>
    rw [parseDigits, Nat.ofDigitChars_cons]
    by_cases hc : c.isDigit
    · simp only [hc, Bool.not_true, Bool.false_eq_true, ↓reduceIte, List.forall_mem_cons, true_and]
      split
      · next hlarge =>
        have hle := le_ofDigitChars cs (10 * n + (c.toNat - '0'.toNat))
        constructor
        · intro h
          cases h
        · rintro ⟨-, rfl, hm⟩
          omega
      · next hsmall => exact ih (by omega)
    · simp [hc]

lemma parseNatural_eq_ok_iff {limit n : Nat} {cs : List Char} :
    parseNatural limit cs = .ok n ↔ n ≤ limit ∧ ∃ ds : List Char,
      ds ≠ [] ∧ (∀ c ∈ ds, c.isDigit) ∧ Nat.ofDigitChars 10 ds 0 = n ∧
        (cs = ds ∨ cs = '+' :: ds) := by
  have hplus : ¬ ('+').isDigit := by decide
  fun_cases parseNatural limit cs with
  | case1 =>
    constructor
    · intro h
      cases h
    · rintro ⟨-, ds, hne, -, -, h | h⟩
      · exact absurd h.symm hne
      · cases h
  | case2 =>
    constructor
    · intro h
      cases h
    · rintro ⟨-, ds, hne, hds, -, rfl | h⟩
      · exact absurd (hds _ List.mem_cons_self) hplus
      · exact absurd (List.cons.inj h).2.symm hne
  | case3 cs hne =>
    rw [parseDigits_eq_ok_iff (Nat.zero_le limit)]
    constructor
    · rintro ⟨hds, hn, hle⟩
      exact ⟨hle, cs, fun h => hne (by rw [h]), hds, hn, Or.inr rfl⟩
    · rintro ⟨hle, ds, -, hds, hn, rfl | h⟩
      · exact absurd (hds _ List.mem_cons_self) hplus
      · cases h
        exact ⟨hds, hn, hle⟩
  | case4 cs hnil hsign hfront =>
    rw [parseDigits_eq_ok_iff (Nat.zero_le limit)]
    constructor
    · rintro ⟨hds, hn, hle⟩
      exact ⟨hle, cs, hnil, hds, hn, Or.inl rfl⟩
    · rintro ⟨hle, ds, -, hds, hn, rfl | rfl⟩
      · exact ⟨hds, hn, hle⟩
      · exact absurd rfl (hfront ds)

/-- **A variable's text is taken for a number when it writes one up to the limit.** -/
theorem numberOverride_eq_ok_iff {limit n : Nat} {variableName value : String} :
    numberOverride limit variableName value = .ok n ↔ n ≤ limit ∧ WritesNumber value n := by
  rw [WritesNumber, ← parseNatural_eq_ok_iff, numberOverride]
  split
  · next m hm => rw [hm, Except.ok.injEq, Except.ok.injEq]
  · next flaw hflaw => simp [hflaw]

lemma map_numberOverride_eq_ok_iff {α : Type} {limit : Nat} {variableName value : String}
    {f : Nat → α} {a : α} : (numberOverride limit variableName value).map f = .ok a ↔
      ∃ n, n ≤ limit ∧ WritesNumber value n ∧ f n = a := by
  constructor
  · intro h
    obtain ⟨n, hn, ha⟩ := map_eq_ok h
    obtain ⟨hle, hwrites⟩ := numberOverride_eq_ok_iff.1 hn
    exact ⟨n, hle, hwrites, ha⟩
  · rintro ⟨n, hle, hwrites, rfl⟩
    rw [numberOverride_eq_ok_iff.2 ⟨hle, hwrites⟩]
    rfl

example : WritesNumber "\t+080 " 80 :=
  ⟨['0', '8', '0'], nofun, List.all_eq_true.1 rfl, rfl, Or.inr (by decide)⟩

/-! ## Valid configurations -/

namespace BridgeConfig

variable {c base : BridgeConfig}

/-- A check that comes first has to pass, and so has what comes after it. -/
lemma refuse_eq_ok_iff {ε : Type} {p : Prop} [Decidable p] {e : ε} {x : Except ε Unit} :
    (if p then .error e else x) = .ok () ↔ ¬p ∧ x = .ok () := by
  split <;> simp_all

lemma validate_eq_ok_iff :
    c.validate = .ok () ↔ ¬(c.version = 0 ∨ c.version > configVersion) ∧
      c.messaging.responseTimeoutMs ≠ 0 ∧ ¬c.host.heartbeatSecs > maxHeartbeatSecs ∧
      c.messaging.connectTimeoutMs ≠ 0 ∧ tokenIsUsable c.host.authToken := by
  simp only [validate, refuse_eq_ok_iff, ne_eq, Bool.not_eq_true', Bool.not_eq_false, and_true]

/-- The defaults are valid. -/
lemma validate_default : ({} : BridgeConfig).validate = .ok () :=
  validate_eq_ok_iff.2 (by decide)

/-- A configuration with the host's and the messengers' overridden fields of another one. -/
def withFieldsOf (base c : BridgeConfig) : BridgeConfig :=
  { base with
    host := { base.host with port := c.host.port, authToken := c.host.authToken }
    messaging := { base.messaging with responseTimeoutMs := c.messaging.responseTimeoutMs } }

/-- With other values in these fields a valid configuration stays valid, unless the time to wait is
zero or the token is blank. -/
lemma validate_withFieldsOf (hbase : base.validate = .ok ()) :
    (base.withFieldsOf c).validate = .ok () ↔
      c.messaging.responseTimeoutMs ≠ 0 ∧ tokenIsUsable c.host.authToken := by
  obtain ⟨hversion, -, hbeat, hconnect, -⟩ := validate_eq_ok_iff.1 hbase
  rw [validate_eq_ok_iff]
  constructor
  · rintro ⟨-, htimeout, -, -, htoken⟩
    exact ⟨htimeout, htoken⟩
  · rintro ⟨htimeout, htoken⟩
    exact ⟨hversion, htimeout, hbeat, hconnect, htoken⟩

/-! ## One variable after the other -/

/-- The configuration with the override of a variable, if it is set. -/
def overridden (value : Option String)
    (override : BridgeConfig → String → Except ConfigError BridgeConfig) (c : BridgeConfig) :
    Except ConfigError BridgeConfig :=
  match value with
  | none => .ok c
  | some text => override c text

end BridgeConfig

namespace Overridden

/-- What overrides come to: a configuration or an error. -/
def result (o : Overridden) : Except ConfigError BridgeConfig := o.outcome.map fun _ => o.config

lemma result_step (o : Overridden) (value : Option String)
    (override : BridgeConfig → String → Except ConfigError BridgeConfig)
    (report : BridgeConfig → String) :
    (o.step value override report).result =
      o.result >>= BridgeConfig.overridden value override := by
  obtain ⟨c, log, outcome⟩ := o
  cases outcome with
  | error e => rfl
  | ok _ =>
    cases value with
    | none => rfl
    | some text =>
      change _ = override c text
      cases htext : override c text with
      | error e => simp only [step, htext]; rfl
      | ok c' => simp only [step, htext]; rfl

/-- The outcome after a last check. -/
lemma result_check (o : Overridden) :
    (match o.outcome with
      | .ok () => { o with outcome := o.config.validate }
      | .error _ => o).result = o.result >>= fun c => c.validate.map fun _ => c := by
  obtain ⟨c, log, outcome⟩ := o
  cases outcome <;> rfl

end Overridden

/-- **Overrides are applied one after the other, and then the result is validated.** -/
theorem BridgeConfig.result_applyOverrides (c : BridgeConfig) (env : Environment) :
    (c.applyOverrides env).result =
      overridden (env portVariable) overridePort c >>= fun c =>
      overridden (env tokenVariable) (fun c text => .ok (c.overrideToken text)) c >>= fun c =>
      overridden (env timeoutVariable) overrideTimeout c >>= fun c =>
      c.validate.map fun _ => c := by
  refine (Overridden.result_check _).trans ?_
  rw [Overridden.result_step, Overridden.result_step, Overridden.result_step, bind_assoc,
    bind_assoc]
  rfl

/-! ## One field after the other -/

/-- What a variable makes of a field: what its text says, or what it was if there is none. -/
def Replaces {α : Type} (value : Option String) (means : String → α → Prop) (old new : α) : Prop :=
  match value with
  | none => new = old
  | some text => means text new

lemma exists_replaces {α : Type} {value : Option String} {means : String → α → Prop}
    (h : ∀ text, value = some text → ∃ a, means text a) (old : α) :
    ∃ new, Replaces value means old new := by
  cases value with
  | none => exact ⟨old, rfl⟩
  | some text => exact h text rfl

namespace BridgeConfig

variable {c c' : BridgeConfig} {value : Option String}

lemma overridden_port_eq_ok_iff :
    overridden value overridePort c = .ok c' ↔
      ∃ p, Replaces value (fun text p => WritesNumber text p.toNat) c.host.port p ∧
        { c with host := { c.host with port := p } } = c' := by
  cases value with
  | none => simp [overridden, Replaces]
  | some text =>
    rw [overridden, overridePort, map_numberOverride_eq_ok_iff]
    constructor
    · rintro ⟨n, hle, hwrites, rfl⟩
      refine ⟨UInt16.ofNat n, ?_, rfl⟩
      rwa [Replaces, UInt16.toNat_ofNat_of_lt' (Nat.lt_succ_of_le hle)]
    · rintro ⟨p, hwrites, rfl⟩
      exact ⟨p.toNat, Nat.le_sub_one_of_lt p.toNat_lt, hwrites, by rw [UInt16.ofNat_toNat]⟩

lemma overridden_token_eq_ok_iff :
    overridden value (fun c text => .ok (c.overrideToken text)) c = .ok c' ↔
      ∃ token, Replaces value (fun text token => token = some text) c.host.authToken token ∧
        { c with host := { c.host with authToken := token } } = c' := by
  cases value with
  | none => simp [overridden, Replaces]
  | some text => simp [overridden, Replaces, overrideToken]

lemma overridden_timeout_eq_ok_iff :
    overridden value overrideTimeout c = .ok c' ↔
      ∃ ms, Replaces value (fun text ms => WritesNumber text ms.toNat)
          c.messaging.responseTimeoutMs ms ∧
        { c with messaging := { c.messaging with responseTimeoutMs := ms } } = c' := by
  cases value with
  | none => simp [overridden, Replaces]
  | some text =>
    rw [overridden, overrideTimeout, map_numberOverride_eq_ok_iff]
    constructor
    · rintro ⟨n, hle, hwrites, rfl⟩
      refine ⟨UInt64.ofNat n, ?_, rfl⟩
      rwa [Replaces, UInt64.toNat_ofNat_of_lt' (Nat.lt_succ_of_le hle)]
    · rintro ⟨ms, hwrites, rfl⟩
      exact ⟨ms.toNat, Nat.le_sub_one_of_lt ms.toNat_lt, hwrites, by rw [UInt64.ofNat_toNat]⟩

end BridgeConfig

/-! ## What the variables allow -/

namespace Variables

/-- What has to hold of the variables that are set to texts. -/
structure AreUsable (v : Variables) : Prop where
  port : ∀ text, v.text? portVariable = some text →
    ∃ n ≤ UInt16.size - 1, WritesNumber text n
  token : ∀ text, v.text? tokenVariable = some text → ¬Text.isBlank text
  timeout : ∀ text, v.text? timeoutVariable = some text →
    ∃ n ≤ UInt64.size - 1, n ≠ 0 ∧ WritesNumber text n

/-- A configuration is another one but for the three fields, and each of them is what its variable
says, or what it was where the variable is not set. -/
structure Override (v : Variables) (base c : BridgeConfig) : Prop where
  port : Replaces (v.text? portVariable) (fun text p => WritesNumber text p.toNat)
    base.host.port c.host.port
  token : Replaces (v.text? tokenVariable) (fun text token => token = some text)
    base.host.authToken c.host.authToken
  timeout : Replaces (v.text? timeoutVariable) (fun text ms => WritesNumber text ms.toNat)
    base.messaging.responseTimeoutMs c.messaging.responseTimeoutMs
  rest : base.withFieldsOf c = c

variable {v : Variables} {base c : BridgeConfig}

/-- The overrides come to a configuration when it has the fields that they say and is valid. -/
lemma result_applyOverrides_eq_ok_iff :
    (base.applyOverrides v.environment).result = .ok c ↔
      v.Override base c ∧ c.validate = .ok () := by
  rw [BridgeConfig.result_applyOverrides]
  simp only [environment]
  constructor
  · intro h
    obtain ⟨_, hfirst, h⟩ := bind_eq_ok h
    obtain ⟨p, hport, rfl⟩ := BridgeConfig.overridden_port_eq_ok_iff.1 hfirst
    obtain ⟨_, hsecond, h⟩ := bind_eq_ok h
    obtain ⟨token, htoken, rfl⟩ := BridgeConfig.overridden_token_eq_ok_iff.1 hsecond
    obtain ⟨_, hthird, h⟩ := bind_eq_ok h
    obtain ⟨ms, htimeout, rfl⟩ := BridgeConfig.overridden_timeout_eq_ok_iff.1 hthird
    obtain ⟨_, hvalid, rfl⟩ := map_eq_ok h
    exact ⟨⟨hport, htoken, htimeout, rfl⟩, hvalid⟩
  · rintro ⟨⟨hport, htoken, htimeout, hrest⟩, hvalid⟩
    have hfirst := BridgeConfig.overridden_port_eq_ok_iff.2 ⟨_, hport, rfl⟩
    -- The fields that are not overridden yet are those of `base`, so the next field starts there.
    have hsecond := (BridgeConfig.overridden_token_eq_ok_iff
      (c := { base with host := { base.host with port := c.host.port } })).2 ⟨_, htoken, rfl⟩
    have hthird := (BridgeConfig.overridden_timeout_eq_ok_iff
      (c := { base with
        host := { base.host with port := c.host.port, authToken := c.host.authToken } })).2
      ⟨_, htimeout, rfl⟩
    rw [hfirst, ok_bind, hsecond, ok_bind, hthird, ok_bind]
    change (base.withFieldsOf c).validate.map (fun _ => base.withFieldsOf c) = _
    rw [hrest, hvalid]
    rfl

/-- Of usable variables each says what its field shall be, and none makes a valid configuration
invalid. -/
lemma AreUsable.exists_override (h : v.AreUsable) (hbase : base.validate = .ok ()) :
    ∃ c, v.Override base c ∧ c.validate = .ok () := by
  obtain ⟨-, hwaits, -, -, hblank⟩ := BridgeConfig.validate_eq_ok_iff.1 hbase
  have hport : ∀ text, v.text? portVariable = some text →
      ∃ p : UInt16, WritesNumber text p.toNat := fun text htext => by
    obtain ⟨n, hn, hwrites⟩ := h.port text htext
    exact ⟨UInt16.ofNat n, by rwa [UInt16.toNat_ofNat_of_lt' (Nat.lt_succ_of_le hn)]⟩
  have htimeout : ∃ ms, Replaces (v.text? timeoutVariable)
      (fun text (ms : UInt64) => WritesNumber text ms.toNat)
      base.messaging.responseTimeoutMs ms ∧ ms ≠ 0 := by
    cases htext : v.text? timeoutVariable with
    | none => exact ⟨_, rfl, hwaits⟩
    | some text =>
      obtain ⟨n, hn, hzero, hwrites⟩ := h.timeout text htext
      have hn' : (UInt64.ofNat n).toNat = n := UInt64.toNat_ofNat_of_lt' (Nat.lt_succ_of_le hn)
      refine ⟨UInt64.ofNat n, by rwa [Replaces, hn'], fun hms => hzero ?_⟩
      rw [← hn', hms]
      rfl
  have htoken : ∃ token, Replaces (v.text? tokenVariable)
      (fun text (token : Option String) => token = some text) base.host.authToken token ∧
      tokenIsUsable token := by
    cases htext : v.text? tokenVariable with
    | none => exact ⟨_, rfl, hblank⟩
    | some text => exact ⟨some text, rfl, by simpa [tokenIsUsable] using h.token text htext⟩
  obtain ⟨p, hp⟩ := exists_replaces hport base.host.port
  obtain ⟨ms, hms, hne⟩ := htimeout
  obtain ⟨token, htoken, husable⟩ := htoken
  let fields : BridgeConfig := { host := { port := p, authToken := token }
                                 messaging := { responseTimeoutMs := ms } }
  exact ⟨base.withFieldsOf fields, ⟨hp, htoken, hms, rfl⟩,
    (BridgeConfig.validate_withFieldsOf hbase).2 ⟨hne, husable⟩⟩

lemma areUsable_of_override (h : v.Override base c) (hvalid : c.validate = .ok ()) :
    v.AreUsable := by
  obtain ⟨-, hwaits, -, -, hblank⟩ := BridgeConfig.validate_eq_ok_iff.1 hvalid
  refine ⟨fun text htext => ?_, fun text htext => ?_, fun text htext => ?_⟩
  · have hport := h.port
    rw [htext] at hport
    exact ⟨_, Nat.le_of_lt_succ c.host.port.toNat_lt, hport⟩
  · have htoken := h.token
    rw [htext] at htoken
    have htoken : c.host.authToken = some text := htoken
    simpa [htoken, tokenIsUsable] using hblank
  · have htimeout := h.timeout
    rw [htext] at htimeout
    exact ⟨_, Nat.le_of_lt_succ c.messaging.responseTimeoutMs.toNat_lt,
      fun hzero => hwaits (UInt64.toNat_inj.1 hzero), htimeout⟩

/-- Variables that are not set change nothing. -/
lemma override_self (hport : v.text? portVariable = none) (htoken : v.text? tokenVariable = none)
    (htimeout : v.text? timeoutVariable = none) (base : BridgeConfig) : v.Override base base :=
  ⟨by rw [hport, Replaces], by rw [htoken, Replaces], by rw [htimeout, Replaces], rfl⟩

end Variables

/-! ## The configuration to start from -/

/-- The configuration file of a directory holds a text that is read as a valid configuration. -/
def BridgeConfig.IsStored (t : FileTree) (dir : String) (c : BridgeConfig) : Prop :=
  ∃ text, t.readText (filePath dir) = .ok text ∧ parse text = .ok c ∧ c.validate = .ok ()

/-- Where the overrides start from: a stored configuration, or the defaults if there is none. -/
inductive BridgeConfig.IsBase (t : FileTree) (dir : String) : BridgeConfig → Prop where
  | stored {c : BridgeConfig} (h : IsStored t dir c) : IsBase t dir c
  | defaults (h : ∀ c, ¬IsStored t dir c) : IsBase t dir {}

namespace BridgeConfig.IsBase

variable {t : FileTree} {dir : String} {base : BridgeConfig}

lemma validate_eq (h : IsBase t dir base) : base.validate = .ok () := by
  cases h with
  | stored h =>
    obtain ⟨_, -, -, hvalid⟩ := h
    exact hvalid
  | defaults _ => exact validate_default

end BridgeConfig.IsBase

/-- A file that does not exist cannot be read. -/
lemma FileTree.readText_ne_ok {t : FileTree} {path : String} (h : t.exists? path = false)
    (text : String) : t.readText path ≠ .ok text := by
  intro hread
  obtain ⟨content, hcontent, -⟩ := bind_eq_ok hread
  obtain ⟨p, hp, hcontent⟩ := bind_eq_ok hcontent
  obtain ⟨_, -, hget⟩ := bind_eq_ok hcontent
  have hnone : (t.get? p).isSome = false := by rwa [exists?, hp] at h
  rw [Option.isSome_eq_false_iff, Option.isNone_iff_eq_none] at hnone
  rw [hnone] at hget
  cases hget

/-- **The configuration to start from is the stored one, or the defaults if there is none.** -/
theorem isBase_baseConfig (t : FileTree) (dir : String) :
    BridgeConfig.IsBase t dir (baseConfig t dir).1 := by
  rw [baseConfig]
  fun_cases BridgeConfig.load t dir with
  | case1 path hexists =>
    refine .defaults ?_
    rintro c ⟨text, hread, -⟩
    exact FileTree.readText_ne_ok (by simpa using hexists) text hread
  | case2 path hexists e hread =>
    refine .defaults ?_
    rintro c ⟨text, hread', -⟩
    rw [hread'] at hread
    cases hread
  | case3 path hexists text hread r hparse =>
    refine .defaults ?_
    rintro c ⟨text', hread', hparse', -⟩
    rw [hread'] at hread
    cases hread
    rw [hparse'] at hparse
    cases hparse
  | case4 path hexists text hread c hparse e hvalid =>
    refine .defaults ?_
    rintro c' ⟨text', hread', hparse', hvalid'⟩
    rw [hread'] at hread
    cases hread
    rw [hparse'] at hparse
    cases hparse
    rw [hvalid'] at hvalid
    cases hvalid
  | case5 path hexists text hread c hparse hvalid => exact .stored ⟨text, hread, hparse, hvalid⟩

/-! ## The configuration to run with -/

/-- What the outcome `r` of reading a configuration is under some variables. -/
structure Variables.Governs (v : Variables) (base : BridgeConfig)
    (r : Except AppError BridgeConfig) : Prop where
  /-- There is a configuration exactly when the variables are usable. -/
  exists_iff : (∃ c, r = .ok c) ↔ v.AreUsable
  /-- It has the three fields from the variables, and everything else from where it started. -/
  override : ∀ c, r = .ok c → v.Override base c
  valid : ∀ c, r = .ok c → c.validate = .ok ()
  /-- Without variables there always is one. -/
  of_unset : v.text? portVariable = none → v.text? tokenVariable = none →
    v.text? timeoutVariable = none → r = .ok base

/-- The configuration to run with is what the overrides come to. -/
lemma loadConfig_eq_ok_iff {t : FileTree} {paths : HostPaths} {env : Environment}
    {c : BridgeConfig} : (loadConfig t paths env).1 = .ok c ↔
      ((baseConfig t paths.configDir).1.applyOverrides env).result = .ok c := by
  rw [loadConfig, Overridden.result]
  dsimp only
  generalize (baseConfig t paths.configDir).1.applyOverrides env = o
  obtain ⟨c', log', outcome⟩ := o
  cases outcome with
  | error e => simp [Except.map]
  | ok _ => simp [Except.map]

/-- **Whatever the files and the variables are, the application runs with the stored configuration,
or with the defaults when there is none, in which the variables replace their three fields; it does
not run at all exactly when a variable cannot be used.** -/
theorem loadConfig_governed (t : FileTree) (paths : HostPaths) (v : Variables) :
    ∃ base, BridgeConfig.IsBase t paths.configDir base ∧
      v.Governs base (loadConfig t paths v.environment).1 := by
  have hbase := isBase_baseConfig t paths.configDir
  have hok {c : BridgeConfig} : (loadConfig t paths v.environment).1 = .ok c ↔
      v.Override (baseConfig t paths.configDir).1 c ∧ c.validate = .ok () := by
    rw [loadConfig_eq_ok_iff, Variables.result_applyOverrides_eq_ok_iff]
  refine ⟨_, hbase, ⟨⟨?_, fun h => ?_⟩, fun c h => (hok.1 h).1, fun c h => (hok.1 h).2, ?_⟩⟩
  · rintro ⟨c, h⟩
    exact Variables.areUsable_of_override (hok.1 h).1 (hok.1 h).2
  · obtain ⟨c, hc⟩ := h.exists_override hbase.validate_eq
    exact ⟨c, hok.2 hc⟩
  · intro hport htoken htimeout
    exact hok.2 ⟨Variables.override_self hport htoken htimeout _, hbase.validate_eq⟩

end WebviewBridge
