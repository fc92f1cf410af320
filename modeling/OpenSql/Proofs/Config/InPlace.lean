/-
# OpenSql.Proofs.Config.InPlace — what the variables leave of a configuration that they override.

The override works on the configuration itself, so an error does not take back what was done before it.
How far it came can be told from the error: the variables before the one that has no meaning have been
taken over, and all four of them when it is only a name that cannot be used.  Nothing is invented on the
way, and a field that has its variable's value takes it again.  So whatever the override leaves behind, a
second one in the same environment stops at the same place.
-/
import OpenSql.Proofs.Config.Layers

namespace OpenSql.SessionConfig

/-! ## One field -/

section

variable {α : Type} {env : Environment} {name : String} {Means : String → α → Prop} {below x : α}

/-- The value is the old one or the variable's. -/
def Either (env : Environment) (name : String) (Means : String → α → Prop) (below x : α) : Prop :=
  x = below ∨ ∃ text, env.Sets name text ∧ Means text x

theorem Above.either (h : Above env name Means below x) : Either env name Means below x := by
  obtain hset | ⟨-, hsame⟩ := h
  · exact .inr hset
  · exact .inl hsame

/-- A field that has been overridden stays as it is when it is overridden again. -/
theorem Above.again (h : Above env name Means below x) : Above env name Means x x := by
  obtain hset | ⟨hunset, -⟩ := h
  · exact .inl hset
  · exact .inr ⟨hunset, rfl⟩

end

/-! ## The whole configuration -/

/-- Every field of the configuration has its old value or its variable's. -/
structure Blends (env : Environment) (below c : SessionConfig) : Prop where
  context : Either env contextVariable Eq below.context c.context
  database : Either env databaseVariable Eq below.database c.database
  trace : Either env traceVariable FlagText below.trace c.trace
  busyTimeout : Either env timeoutVariable TimeoutText below.busyTimeout c.busyTimeout

variable {env : Environment} {below c : SessionConfig} {e : ConfigError}

theorem Overrides.blends (h : Overrides env below c) : Blends env below c :=
  ⟨h.context.either, h.database.either, h.trace.either, h.busyTimeout.either⟩

theorem Overrides.again (h : Overrides env below c) : Overrides env c c :=
  ⟨h.context.again, h.database.again, h.trace.again, h.busyTimeout.again⟩

theorem Interrupted.blends (h : Interrupted env below e c) : Blends env below c := by
  cases h with
  | trace hcontext hdatabase =>
      exact ⟨hcontext.either, hdatabase.either, .inl rfl, .inl rfl⟩
  | timeout hcontext hdatabase htrace =>
      exact ⟨hcontext.either, hdatabase.either, htrace.either, .inl rfl⟩
  | name hoverrides => exact hoverrides.blends

/-- The variable that had no meaning still has none, and those before it change nothing any more. -/
theorem Interrupted.again (h : Interrupted env below e c) : Interrupted env c e c := by
  cases h with
  | trace hcontext hdatabase hset hnot => exact .trace hcontext.again hdatabase.again hset hnot
  | timeout hcontext hdatabase htrace hset hnot =>
      exact .timeout hcontext.again hdatabase.again htrace.again hset hnot
  | name hoverrides hblank => exact .name hoverrides.again hblank

/-- An override takes over every variable and finds the names usable, or something interrupts it. -/
theorem applied_or_interrupted (env : Environment) (below : SessionConfig) :
    (∃ c, Overrides env below c ∧ c.Named) ∨ ∃ e c, Interrupted env below e c := by
  obtain ⟨c, hc⟩ | ⟨e, he⟩ := overrides_or_refused env below
  · cases hcheck : c.validate with
    | ok => exact .inl ⟨c, hc, validate_eq_ok_iff.mp hcheck⟩
    | error e => exact .inr ⟨e, c, .name hc (validate_eq_error_iff.mp hcheck)⟩
  · obtain ⟨c, hc⟩ := overrideRefused_iff.mp he
    exact .inr ⟨e, c, hc⟩

theorem Overrides.applyEnvironment_eq (h : Overrides env below c) (hnamed : c.Named) :
    applyEnvironment env below = (.ok (), c) := by
  rw [applyEnvironment_of_overrides h, validate_eq_ok_iff.mpr hnamed]

theorem applyEnvironment_eq_error_iff :
    applyEnvironment env below = (.error e, c) ↔ Interrupted env below e c := by
  constructor
  · intro h
    obtain ⟨c', hc', hnamed⟩ | ⟨e', c', hc'⟩ := applied_or_interrupted env below
    · cases h.symm.trans (hc'.applyEnvironment_eq hnamed)
    · cases h.symm.trans hc'.applyEnvironment_eq
      exact hc'
  · exact Interrupted.applyEnvironment_eq

theorem applyEnvironment_eq_ok_iff :
    applyEnvironment env below = (.ok (), c) ↔ Overrides env below c ∧ c.Named := by
  constructor
  · intro h
    obtain ⟨c', hc', hnamed⟩ | ⟨e', c', hc'⟩ := applied_or_interrupted env below
    · cases h.symm.trans (hc'.applyEnvironment_eq hnamed)
      exact ⟨hc', hnamed⟩
    · cases h.symm.trans hc'.applyEnvironment_eq
  · rintro ⟨hoverrides, hnamed⟩
    exact hoverrides.applyEnvironment_eq hnamed

/-- Overriding a configuration in place.  It fails exactly with the first check that does not pass, and
succeeds otherwise with all names usable.  A success has taken over all variables; an error has taken over
those before the variable that it reports, with the old values from there on, and all of them when it
reports a blank name.  So no field holds anything but its old value or its variable's, and to override
once more in the same environment gives the same result and changes nothing. -/
theorem environment_applied_in_place (env : Environment) (below : SessionConfig) :
    let applied := applyEnvironment env below
    (∀ e, applied.1 = .error e ↔ OverrideRefused env below e) ∧
    (applied.1 = .ok () → Overrides env below applied.2 ∧ applied.2.Named) ∧
    (∀ e, applied.1 = .error e → Interrupted env below e applied.2) ∧
    Blends env below applied.2 ∧
    applyEnvironment env applied.2 = applied := by
  intro applied
  have herror : ∀ e, applied.1 = .error e → Interrupted env below e applied.2 := fun e he =>
    applyEnvironment_eq_error_iff.mp (Prod.ext he rfl)
  have hok : applied.1 = .ok () → Overrides env below applied.2 ∧ applied.2.Named := fun hdone =>
    applyEnvironment_eq_ok_iff.mp (Prod.ext hdone rfl)
  refine ⟨fun e => ?_, hok, herror, ?_⟩
  · rw [overrideRefused_iff]
    constructor
    · intro he
      exact ⟨applied.2, herror e he⟩
    · rintro ⟨c, hc⟩
      exact congrArg Prod.fst hc.applyEnvironment_eq
  · cases hresult : applied.1 with
    | ok =>
        obtain ⟨hoverrides, hnamed⟩ := hok hresult
        exact ⟨hoverrides.blends,
          (hoverrides.again.applyEnvironment_eq hnamed).trans (Prod.ext hresult.symm rfl)⟩
    | error e =>
        have hinterrupted := herror e hresult
        exact ⟨hinterrupted.blends,
          hinterrupted.again.applyEnvironment_eq.trans (Prod.ext hresult.symm rfl)⟩

end OpenSql.SessionConfig
