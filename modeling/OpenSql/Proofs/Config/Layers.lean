/-
# OpenSql.Proofs.Config.Layers — the layers of a configuration, and the checks on them in their order.

A field has the value of its variable if that is set, else the value of its entry in the file at whatever
place the entry stands, else its default.  Between the layers stand the checks: the file must be a text and
a document with fitting values, its names must be usable even if variables replace them, every variable
must have a meaning, and the names must be usable in the end.  Loading succeeds exactly when all of them
pass, with the fields that the layers give; otherwise the first check that does not pass is the error.
-/
import OpenSql.Proofs.Config.RoundTrip
import OpenSql.Proofs.Config.Variables
import OpenSql.Proofs.Text.Utf8
import OpenSql.Proofs.Toml.Keys

namespace OpenSql

open Toml (Entries Node)

/-! ## Variables -/

namespace Environment

/-- The variable is set, and its bytes are those of the text. -/
def Sets (env : Environment) (name text : String) : Prop :=
  env.entries.find? (·.1 == name) = some (name, Text.encodeUtf8 text)

variable {env : Environment} {name text : String}

theorem get?_eq_some_iff : env.get? name = some text ↔ env.Sets name text := by
  rw [get?, Option.bind_eq_some_iff, Sets]
  constructor
  · rintro ⟨⟨found, bytes⟩, hfind, hdecode⟩
    have hfound : (found == name) = true := by simpa using List.find?_some hfind
    obtain rfl := beq_iff_eq.mp hfound
    obtain rfl : bytes = Text.encodeUtf8 text := Text.decodeUtf8?_eq_some_iff.mp hdecode
    exact hfind
  · intro hfind
    exact ⟨_, hfind, Text.decodeUtf8?_encodeUtf8 text⟩

/-- A variable with other bytes counts as unset. -/
theorem get?_eq_none_iff : env.get? name = none ↔ ∀ text, ¬ env.Sets name text := by
  simp only [Option.eq_none_iff_forall_ne_some, ne_eq, get?_eq_some_iff]

end Environment

namespace SessionConfig

/-! ## Fields of a document -/

section

variable {α : Type} {entries : Entries} {key : String}

/-- The value of the key's entry, wherever it stands, or the default if the key has none. -/
def Given (entries : Entries) (key : String) (node : α → Node) (default x : α) : Prop :=
  (key, node x) ∈ entries ∨ key ∉ entries.keys ∧ x = default

theorem field?_eq_some_iff (h : entries.Distinct) {read : Node → Option α} {node : α → Node}
    (hread : ∀ y x, read y = some x ↔ y = node x) {default x : α} :
    field? entries key read default = some x ↔ Given entries key node default x := by
  rw [field?, Given, ← h.get?_eq_some_iff]
  cases hget : entries.get? key with
  | none =>
      have hnone := Toml.Entries.get?_eq_none_iff.mp hget
      simp only [Option.some.injEq, hnone, not_false_eq_true, true_and, reduceCtorEq, false_or]
      exact eq_comm
  | some y =>
      have hsome : ¬ key ∉ entries.keys := fun hnot => by
        rw [Toml.Entries.get?_eq_none_iff.mpr hnot] at hget
        cases hget
      simp only [hread, Option.some.injEq, hsome, false_and, or_false]

end

theorem nodeText?_eq_some_iff (y : Node) (s : String) : nodeText? y = some s ↔ y = .string s := by
  cases y <;> simp [nodeText?]

theorem nodeFlag?_eq_some_iff (y : Node) (b : Bool) : nodeFlag? y = some b ↔ y = .boolean b := by
  cases y <;> simp [nodeFlag?]

/-- The node of a timeout. -/
def timeoutNode (n : UInt64) : Node := .integer n.toNat

theorem nodeTimeout?_eq_some_iff (y : Node) (n : UInt64) :
    nodeTimeout? y = some n ↔ y = timeoutNode n := by
  cases y with
  | integer k =>
      have hn := n.toNat_lt
      rw [nodeTimeout?, timeoutNode, Node.integer.injEq]
      split
      · next hfits =>
          rw [Option.some.injEq, ← UInt64.toNat_inj, UInt64.toNat_ofNat', Nat.mod_eq_of_lt (by omega)]
          omega
      · next hfits =>
          simp only [reduceCtorEq, false_iff]
          omega
  | _ => simp [nodeTimeout?, timeoutNode]

/-- The configuration has the values of a document's entries, and defaults where there are none. -/
structure Holds (entries : Entries) (c : SessionConfig) : Prop where
  context : Given entries "context" Node.string "DEFAULT" c.context
  database : Given entries "database" Node.string ":memory:" c.database
  trace : Given entries "trace" Node.boolean false c.trace
  busyTimeout : Given entries "busy_timeout_ms" timeoutNode 5000 c.busyTimeout

theorem ofEntries?_eq_some_iff {entries : Entries} (h : entries.Distinct) {c : SessionConfig} :
    ofEntries? entries = some c ↔ Holds entries c := by
  simp only [ofEntries?, Option.bind_eq_bind, Option.bind_eq_some_iff, Option.pure_def,
    field?_eq_some_iff h nodeText?_eq_some_iff, field?_eq_some_iff h nodeFlag?_eq_some_iff,
    field?_eq_some_iff h nodeTimeout?_eq_some_iff]
  constructor
  · rintro ⟨context, hcontext, database, hdatabase, trace, htrace, busyTimeout, htimeout, heq⟩
    obtain rfl := Option.some.inj heq
    exact ⟨hcontext, hdatabase, htrace, htimeout⟩
  · rintro ⟨hcontext, hdatabase, htrace, htimeout⟩
    exact ⟨_, hcontext, _, hdatabase, _, htrace, _, htimeout, rfl⟩

/-! ## Names -/

/-- The first name that is blank, and the error for it. -/
inductive BlankName (c : SessionConfig) : ConfigError → Prop
  | context : Text.AllBlank c.context.toList → BlankName c (.invalidValue "context" c.context)
  | database : ¬ Text.AllBlank c.context.toList → Text.AllBlank c.database.toList →
      BlankName c (.invalidValue "database" c.database)

theorem validate_eq_error_iff {c : SessionConfig} {e : ConfigError} :
    c.validate = .error e ↔ BlankName c e := by
  rw [validate_eq]
  constructor
  · intro h
    split at h
    · next hcontext =>
        cases h
        exact .context hcontext
    split at h
    · next hcontext hdatabase =>
        cases h
        exact .database hcontext hdatabase
    · cases h
  · rintro (hcontext | ⟨hcontext, hdatabase⟩)
    · rw [if_pos hcontext]
    · rw [if_neg hcontext, if_pos hdatabase]

/-- A result that is a configuration with its names checked, or the error of an earlier check. -/
theorem checked {result : Except ConfigError SessionConfig} {Gives : SessionConfig → Prop}
    {Refused : ConfigError → Prop} (hgives : ∀ c, Gives c → result = c.validate.map fun _ => c)
    (hrefused : ∀ e, Refused e → result = .error e)
    (hname : ∀ c e, Gives c → BlankName c e → Refused e)
    (heither : (∃ c, Gives c) ∨ ∃ e, Refused e) :
    (∀ c, result = .ok c ↔ Gives c ∧ c.Named) ∧ ∀ e, result = .error e ↔ Refused e := by
  have hnamed : ∀ c, Gives c → c.Named → result = .ok c := fun c hc hn => by
    rw [hgives c hc, validate_eq_ok_iff.mpr hn]
    rfl
  -- One of the two descriptions always fits, so the result cannot come about in another way.
  obtain ⟨c, hc, hn⟩ | ⟨e, he⟩ : (∃ c, Gives c ∧ c.Named) ∨ ∃ e, Refused e := by
    obtain ⟨c, hc⟩ | hrefused := heither
    · cases hcheck : c.validate with
      | ok => exact .inl ⟨c, hc, validate_eq_ok_iff.mp hcheck⟩
      | error e => exact .inr ⟨e, hname c e hc (validate_eq_error_iff.mp hcheck)⟩
    · exact .inr hrefused
  · have hresult := hnamed c hc hn
    refine ⟨fun c' => ⟨fun h => ?_, fun h => hnamed c' h.1 h.2⟩, fun e => ⟨fun h => ?_, hrefused e⟩⟩
    · cases hresult.symm.trans h
      exact ⟨hc, hn⟩
    · cases hresult.symm.trans h
  · have hresult := hrefused e he
    refine ⟨fun c => ⟨fun h => ?_, fun h => hnamed c h.1 h.2⟩, fun e' => ⟨fun h => ?_, hrefused e'⟩⟩
    · cases hresult.symm.trans h
    · cases hresult.symm.trans h
      exact he

/-! ## Documents -/

/-- The text is a document with fitting values, which give the configuration. -/
def Describes (text : String) (c : SessionConfig) : Prop :=
  ∃ entries, Toml.read? text.toList = some entries ∧ Holds entries c

/-- The first check on a text that does not pass, and its error. -/
inductive TextRefused (text : String) : ConfigError → Prop
  | malformed : (∀ c, ¬ Describes text c) → TextRefused text (.malformed none formatReason)
  | name {c e} : Describes text c → BlankName c e → TextRefused text e

theorem bind_ofEntries?_eq_some_iff {text : String} {c : SessionConfig} :
    (Toml.read? text.toList).bind ofEntries? = some c ↔ Describes text c := by
  rw [Option.bind_eq_some_iff]
  constructor
  · rintro ⟨entries, hread, hfields⟩
    exact ⟨entries, hread, (ofEntries?_eq_some_iff (Toml.distinct_read? hread)).mp hfields⟩
  · rintro ⟨entries, hread, hholds⟩
    exact ⟨entries, hread, (ofEntries?_eq_some_iff (Toml.distinct_read? hread)).mpr hholds⟩

theorem ofToml_of_describes {text : String} {c : SessionConfig} (h : Describes text c) :
    ofToml text = c.validate.map fun _ => c := by
  unfold ofToml
  simp only [bind_ofEntries?_eq_some_iff.mpr h]
  cases c.validate <;> rfl

theorem ofToml_of_malformed {text : String} (h : ∀ c, ¬ Describes text c) :
    ofToml text = .error (.malformed none formatReason) := by
  have hnone := Option.eq_none_iff_forall_ne_some.mpr fun c hsome =>
    h c (bind_ofEntries?_eq_some_iff.mp hsome)
  rw [ofToml, hnone]

theorem ofToml_checked (text : String) :
    (∀ c, ofToml text = .ok c ↔ Describes text c ∧ c.Named) ∧
      ∀ e, ofToml text = .error e ↔ TextRefused text e := by
  refine checked (fun _ => ofToml_of_describes) ?_ (fun _ _ => .name) ?_
  · rintro e (hnot | ⟨hdescribes, hblank⟩)
    · exact ofToml_of_malformed hnot
    · rw [ofToml_of_describes hdescribes, validate_eq_error_iff.mpr hblank]
      rfl
  · by_cases h : ∃ c, Describes text c
    · exact .inl h
    · exact .inr ⟨_, .malformed fun c hc => h ⟨c, hc⟩⟩

/-! ## Files -/

/-- The file at the path is a text that describes the configuration. -/
def Filed (tree : FileTree (List UInt8)) (path : String) (c : SessionConfig) : Prop :=
  ∃ text, tree.read path = .ok (Text.encodeUtf8 text) ∧ Describes text c

/-- The first check on the file that does not pass, and its error. -/
inductive FileRefused (tree : FileTree (List UInt8)) (path : String) : ConfigError → Prop
  | missing {cause} : tree.read path = .error cause →
      FileRefused tree path (.unreadable path cause.message)
  | noText {bytes} : tree.read path = .ok bytes → (∀ text, bytes ≠ Text.encodeUtf8 text) →
      FileRefused tree path (.unreadable path notTextReason)
  | malformed {text} : tree.read path = .ok (Text.encodeUtf8 text) → (∀ c, ¬ Describes text c) →
      FileRefused tree path (.malformed (some path) formatReason)
  | name {c e} : Filed tree path c → BlankName c e → FileRefused tree path e

/-- The error for a file whose text has an error. -/
def inFile (path : String) : ConfigError → ConfigError
  | .malformed _ reason => .malformed (some path) reason
  | e => e

/-- A file that is a text is read as that text. -/
theorem ofFile_of_text {tree : FileTree (List UInt8)} {path text : String}
    (hfile : tree.read path = .ok (Text.encodeUtf8 text)) :
    ofFile tree path = (ofToml text).mapError (inFile path) := by
  simp only [ofFile, hfile, Text.decodeUtf8?_encodeUtf8]
  cases ofToml text with
  | ok c => rfl
  | error e => cases e <;> rfl

theorem ofFile_of_filed {tree : FileTree (List UInt8)} {path : String} {c : SessionConfig}
    (h : Filed tree path c) : ofFile tree path = c.validate.map fun _ => c := by
  obtain ⟨text, hfile, hdescribes⟩ := h
  rw [ofFile_of_text hfile, ofToml_of_describes hdescribes]
  -- The error for a blank name says nothing of the file.
  cases hcheck : c.validate with
  | ok => rfl
  | error e => cases validate_eq_error_iff.mp hcheck <;> rfl

theorem FileRefused.ofFile_eq {tree : FileTree (List UInt8)} {path : String} {e : ConfigError}
    (h : FileRefused tree path e) : ofFile tree path = .error e := by
  cases h with
  | missing hfile => rw [ofFile, hfile]
  | noText hfile hbytes =>
      have hdecode := Option.eq_none_iff_forall_ne_some.mpr fun text hsome =>
        hbytes text (Text.decodeUtf8?_eq_some_iff.mp hsome)
      rw [ofFile, hfile]
      dsimp only
      rw [hdecode]
  | malformed hfile hnot =>
      rw [ofFile_of_text hfile, ofToml_of_malformed hnot]
      rfl
  | name hfiled hblank =>
      rw [ofFile_of_filed hfiled, validate_eq_error_iff.mpr hblank]
      rfl

/-- A file gives a configuration, or one of the checks does not pass. -/
theorem filed_or_refused (tree : FileTree (List UInt8)) (path : String) :
    (∃ c, Filed tree path c) ∨ ∃ e, FileRefused tree path e := by
  cases hfile : tree.read path with
  | error cause => exact .inr ⟨_, .missing hfile⟩
  | ok bytes =>
      by_cases hbytes : ∃ text, bytes = Text.encodeUtf8 text
      · obtain ⟨text, rfl⟩ := hbytes
        by_cases hdescribes : ∃ c, Describes text c
        · obtain ⟨c, hc⟩ := hdescribes
          exact .inl ⟨c, text, hfile, hc⟩
        · exact .inr ⟨_, .malformed hfile fun c hc => hdescribes ⟨c, hc⟩⟩
      · exact .inr ⟨_, .noText hfile fun text heq => hbytes ⟨text, heq⟩⟩

theorem ofFile_checked (tree : FileTree (List UInt8)) (path : String) :
    (∀ c, ofFile tree path = .ok c ↔ Filed tree path c ∧ c.Named) ∧
      ∀ e, ofFile tree path = .error e ↔ FileRefused tree path e :=
  checked (fun _ => ofFile_of_filed) (fun _ => FileRefused.ofFile_eq) (fun _ _ => .name)
    (filed_or_refused tree path)

/-! ## Overrides -/

section

variable {α : Type} {env : Environment} {name : String} {Means : String → α → Prop} {below x : α}

/-- The value of the variable if it is set, or else the value below. -/
def Above (env : Environment) (name : String) (Means : String → α → Prop) (below x : α) : Prop :=
  (∃ text, env.Sets name text ∧ Means text x) ∨ (∀ text, ¬ env.Sets name text) ∧ x = below

theorem above_or_refused (env : Environment) (name : String) (Means : String → α → Prop) (below : α) :
    (∃ x, Above env name Means below x) ∨ ∃ text, env.Sets name text ∧ ∀ x, ¬ Means text x := by
  by_cases hset : ∃ text, env.Sets name text
  · obtain ⟨text, hset⟩ := hset
    by_cases hmeans : ∃ x, Means text x
    · obtain ⟨x, hx⟩ := hmeans
      exact .inl ⟨x, .inl ⟨text, hset, hx⟩⟩
    · exact .inr ⟨text, hset, fun x hx => hmeans ⟨x, hx⟩⟩
  · exact .inl ⟨below, .inr ⟨fun text h => hset ⟨text, h⟩, rfl⟩⟩

variable {read : String → Option α} {set : SessionConfig → α → SessionConfig} {config : SessionConfig}

theorem override_of_above (hread : ∀ text x, read text = some x ↔ Means text x)
    (hbelow : set config below = config) (h : Above env name Means below x) :
    override env name read set config = (.ok (), set config x) := by
  obtain ⟨text, hset, hmeans⟩ | ⟨hunset, rfl⟩ := h
  · rw [override, Environment.get?_eq_some_iff.mpr hset]
    dsimp only
    rw [(hread text x).mpr hmeans]
  · rw [override, Environment.get?_eq_none_iff.mpr hunset, hbelow]

theorem override_of_refused (hread : ∀ text x, read text = some x ↔ Means text x) {text : String}
    (hset : env.Sets name text) (hnot : ∀ x, ¬ Means text x) :
    override env name read set config = (.error (.invalidValue name text), config) := by
  have hnone := Option.eq_none_iff_forall_ne_some.mpr fun x hsome => hnot x ((hread text x).mp hsome)
  rw [override, Environment.get?_eq_some_iff.mpr hset]
  dsimp only
  rw [hnone]

end

/-- The configuration has the values of the variables that are set, and those below elsewhere. -/
structure Overrides (env : Environment) (below c : SessionConfig) : Prop where
  context : Above env contextVariable Eq below.context c.context
  database : Above env databaseVariable Eq below.database c.database
  trace : Above env traceVariable FlagText below.trace c.trace
  busyTimeout : Above env timeoutVariable TimeoutText below.busyTimeout c.busyTimeout

/-- The first check on the variables that does not pass, and its error. -/
inductive OverrideRefused (env : Environment) (below : SessionConfig) : ConfigError → Prop
  | trace {text} : env.Sets traceVariable text → (∀ b, ¬ FlagText text b) →
      OverrideRefused env below (.invalidValue traceVariable text)
  | timeout {b text} : Above env traceVariable FlagText below.trace b →
      env.Sets timeoutVariable text → (∀ n, ¬ TimeoutText text n) →
      OverrideRefused env below (.invalidValue timeoutVariable text)
  | name {c e} : Overrides env below c → BlankName c e → OverrideRefused env below e

/-- What has been taken over when an error ends the override: the variables before the one that has no
meaning, and all four of them when only a name is blank. -/
inductive Interrupted (env : Environment) (below : SessionConfig) : ConfigError → SessionConfig → Prop
  | trace {context database text} : Above env contextVariable Eq below.context context →
      Above env databaseVariable Eq below.database database →
      env.Sets traceVariable text → (∀ b, ¬ FlagText text b) →
      Interrupted env below (.invalidValue traceVariable text)
        { below with context := context, database := database }
  | timeout {context database trace text} : Above env contextVariable Eq below.context context →
      Above env databaseVariable Eq below.database database →
      Above env traceVariable FlagText below.trace trace →
      env.Sets timeoutVariable text → (∀ n, ¬ TimeoutText text n) →
      Interrupted env below (.invalidValue timeoutVariable text)
        { below with context := context, database := database, trace := trace }
  | name {c e} : Overrides env below c → BlankName c e → Interrupted env below e c

variable {env : Environment} {below c : SessionConfig} {e : ConfigError}

/-- Any text will do for a name at first. -/
theorem exists_names (env : Environment) (below : SessionConfig) :
    ∃ context database, Above env contextVariable Eq below.context context ∧
      Above env databaseVariable Eq below.database database := by
  have hname : ∀ name under, ∃ x, Above env name Eq under x := by
    intro name under
    obtain h | ⟨text, -, hnot⟩ := above_or_refused env name Eq under
    · exact h
    · exact absurd rfl (hnot text)
  obtain ⟨context, hcontext⟩ := hname contextVariable below.context
  obtain ⟨database, hdatabase⟩ := hname databaseVariable below.database
  exact ⟨context, database, hcontext, hdatabase⟩

/-- With the names replaced, what is left to do is to read the trace and the timeout. -/
theorem applyEnvironment_of_names {context database : String}
    (hcontext : Above env contextVariable Eq below.context context)
    (hdatabase : Above env databaseVariable Eq below.database database) :
    applyEnvironment env below =
      let named : SessionConfig := { below with context := context, database := database }
      match override env traceVariable flag? (fun c x => { c with trace := x }) named with
      | (.error e, traced) => (.error e, traced)
      | (.ok (), traced) =>
        match override env timeoutVariable timeout? (fun c x => { c with busyTimeout := x }) traced with
        | (.error e, timed) => (.error e, timed)
        | (.ok (), timed) => (timed.validate, timed) := by
  have hfirst : override env contextVariable some (fun c x => { c with context := x }) below =
      (.ok (), { below with context := context }) :=
    override_of_above (fun _ _ => Option.some_inj) rfl hcontext
  have hsecond : override env databaseVariable some (fun c x => { c with database := x })
      { below with context := context } =
        (.ok (), { below with context := context, database := database }) :=
    override_of_above (fun _ _ => Option.some_inj) rfl hdatabase
  rewrite [applyEnvironment, hfirst]
  dsimp only
  rewrite [hsecond]
  rfl

theorem applyEnvironment_of_overrides (h : Overrides env below c) :
    applyEnvironment env below = (c.validate, c) := by
  rw [applyEnvironment_of_names h.context h.database]
  dsimp only
  rw [override_of_above flag?_eq_some_iff rfl h.trace]
  dsimp only
  rw [override_of_above timeout?_eq_some_iff rfl h.busyTimeout]

theorem overridden_of_overrides (h : Overrides env below c) :
    overridden env below = c.validate.map fun _ => c := by
  rw [overridden, applyEnvironment_of_overrides h]
  cases c.validate <;> rfl

theorem Interrupted.applyEnvironment_eq (h : Interrupted env below e c) :
    applyEnvironment env below = (.error e, c) := by
  cases h with
  | trace hcontext hdatabase hset hnot =>
      rw [applyEnvironment_of_names hcontext hdatabase]
      dsimp only
      rw [override_of_refused flag?_eq_some_iff hset hnot]
  | timeout hcontext hdatabase htrace hset hnot =>
      rw [applyEnvironment_of_names hcontext hdatabase]
      dsimp only
      rw [override_of_above flag?_eq_some_iff rfl htrace]
      dsimp only
      rw [override_of_refused timeout?_eq_some_iff hset hnot]
  | name hoverrides hblank =>
      rw [applyEnvironment_of_overrides hoverrides, validate_eq_error_iff.mpr hblank]

/-- An override is refused with an error exactly when the error interrupts it. -/
theorem overrideRefused_iff : OverrideRefused env below e ↔ ∃ c, Interrupted env below e c := by
  constructor
  · intro h
    obtain ⟨context, database, hcontext, hdatabase⟩ := exists_names env below
    cases h with
    | trace hset hnot => exact ⟨_, .trace hcontext hdatabase hset hnot⟩
    | timeout htrace hset hnot => exact ⟨_, .timeout hcontext hdatabase htrace hset hnot⟩
    | name hoverrides hblank => exact ⟨_, .name hoverrides hblank⟩
  · rintro ⟨c, h⟩
    cases h with
    | trace _ _ hset hnot => exact .trace hset hnot
    | timeout _ _ htrace hset hnot => exact .timeout htrace hset hnot
    | name hoverrides hblank => exact .name hoverrides hblank

theorem OverrideRefused.overridden_eq (h : OverrideRefused env below e) :
    overridden env below = .error e := by
  obtain ⟨c, hc⟩ := overrideRefused_iff.mp h
  rw [overridden, hc.applyEnvironment_eq]

/-- Every variable that is set has a meaning, or one of the checks does not pass. -/
theorem overrides_or_refused (env : Environment) (below : SessionConfig) :
    (∃ c, Overrides env below c) ∨ ∃ e, OverrideRefused env below e := by
  obtain ⟨context, database, hcontext, hdatabase⟩ := exists_names env below
  obtain ⟨trace, htrace⟩ | ⟨text, hset, hnot⟩ :=
    above_or_refused env traceVariable FlagText below.trace
  · obtain ⟨busyTimeout, htimeout⟩ | ⟨text, hset, hnot⟩ :=
      above_or_refused env timeoutVariable TimeoutText below.busyTimeout
    · exact .inl ⟨⟨context, database, trace, busyTimeout⟩, hcontext, hdatabase, htrace, htimeout⟩
    · exact .inr ⟨_, .timeout htrace hset hnot⟩
  · exact .inr ⟨_, .trace hset hnot⟩

theorem overridden_checked (env : Environment) (below : SessionConfig) :
    (∀ c, overridden env below = .ok c ↔ Overrides env below c ∧ c.Named) ∧
      ∀ e, overridden env below = .error e ↔ OverrideRefused env below e :=
  checked (fun _ => overridden_of_overrides) (fun _ => OverrideRefused.overridden_eq) (fun _ _ => .name)
    (overrides_or_refused env below)

/-! ## Both layers -/

/-- The checks on the file, and then those on the variables above it. -/
def LoadRefused (tree : FileTree (List UInt8)) (env : Environment) (path : String) (e : ConfigError) :
    Prop :=
  FileRefused tree path e ∨ ∃ file, Filed tree path file ∧ file.Named ∧ OverrideRefused env file e

/-- The file's values are usable, and the configuration has the variables' values above them. -/
def Loads (tree : FileTree (List UInt8)) (env : Environment) (path : String) (c : SessionConfig) : Prop :=
  ∃ file, Filed tree path file ∧ file.Named ∧ Overrides env file c

theorem load_of_filed {tree : FileTree (List UInt8)} {path : String} {file : SessionConfig}
    (hfiled : Filed tree path file) (hnamed : file.Named) : load tree env path = overridden env file := by
  rw [load, ((ofFile_checked tree path).1 file).mpr ⟨hfiled, hnamed⟩]
  rfl

theorem loads_or_refused (tree : FileTree (List UInt8)) (env : Environment) (path : String) :
    (∃ c, Loads tree env path c) ∨ ∃ e, LoadRefused tree env path e := by
  obtain ⟨file, hfiled⟩ | ⟨e, hrefused⟩ := filed_or_refused tree path
  · cases hcheck : file.validate with
    | error e => exact .inr ⟨e, .inl (.name hfiled (validate_eq_error_iff.mp hcheck))⟩
    | ok =>
        have hnamed := validate_eq_ok_iff.mp hcheck
        obtain ⟨c, hc⟩ | ⟨e, he⟩ := overrides_or_refused env file
        · exact .inl ⟨c, file, hfiled, hnamed, hc⟩
        · exact .inr ⟨e, .inr ⟨file, hfiled, hnamed, he⟩⟩
  · exact .inr ⟨e, .inl hrefused⟩

theorem load_checked (tree : FileTree (List UInt8)) (env : Environment) (path : String) :
    (∀ c, load tree env path = .ok c ↔ Loads tree env path c ∧ c.Named) ∧
      ∀ e, load tree env path = .error e ↔ LoadRefused tree env path e := by
  refine checked ?_ ?_ ?_ (loads_or_refused tree env path)
  · rintro c ⟨file, hfiled, hnamed, hoverrides⟩
    rw [load_of_filed hfiled hnamed, overridden_of_overrides hoverrides]
  · rintro e (hrefused | ⟨file, hfiled, hnamed, hrefused⟩)
    · rw [load, hrefused.ofFile_eq]
      rfl
    · rw [load_of_filed hfiled hnamed, hrefused.overridden_eq]
  · rintro c e ⟨file, hfiled, hnamed, hoverrides⟩ hblank
    exact .inr ⟨file, hfiled, hnamed, .name hoverrides hblank⟩

/-- Loading from a file gives exactly the configuration of the layers when every check passes, and the
error of the first check otherwise; so does reading the environment alone, with the defaults below it.
Whatever is accepted has names that can be used. -/
theorem load_layers (tree : FileTree (List UInt8)) (env : Environment) (path : String) :
    (∀ c, load tree env path = .ok c ↔ Loads tree env path c ∧ c.Named) ∧
    (∀ e, load tree env path = .error e ↔ LoadRefused tree env path e) ∧
    (∀ c, ofEnvironment env = .ok c ↔ Overrides env {} c ∧ c.Named) ∧
    (∀ e, ofEnvironment env = .error e ↔ OverrideRefused env {} e) ∧
    (∀ text c, ofToml text = .ok c ↔ Describes text c ∧ c.Named) :=
  ⟨(load_checked tree env path).1, (load_checked tree env path).2, (overridden_checked env {}).1,
    (overridden_checked env {}).2, fun text => (ofToml_checked text).1⟩

end SessionConfig

end OpenSql
