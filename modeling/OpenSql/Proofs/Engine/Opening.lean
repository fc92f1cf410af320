/-
# OpenSql.Proofs.Engine.Opening — when connecting to the engine does not come back.

Every call of the engine is answered, with one exception: a timeout that the engine cannot count brings
the opening to a halt once the database is open.  The checks on a configuration look at the names alone, so
usable configurations are among those with which connecting does not come back.  With all others it gives a
handle or passes on the engine's fault, whatever the session held before.
-/
import OpenSql.Engine.Backend
import OpenSql.Proofs.Config.Layers
import OpenSql.Proofs.Lifecycle

namespace OpenSql

/-! ## Usable configurations -/

namespace SessionConfig

/-- One of the ways to read a configuration gives this one. -/
def Accepted (c : SessionConfig) : Prop :=
  (∃ text, ofToml text = .ok c) ∨ (∃ env, ofEnvironment env = .ok c) ∨
    ∃ tree env path, load tree env path = .ok c

/-- The variables that spell a configuration out. -/
def spelledOut (c : SessionConfig) : Environment :=
  ⟨[(contextVariable, Text.encodeUtf8 c.context), (databaseVariable, Text.encodeUtf8 c.database),
    (traceVariable, Text.encodeUtf8 (if c.trace then "on" else "off")),
    (timeoutVariable, Text.encodeUtf8 (Decimal.text c.busyTimeout.toNat))]⟩

theorem flagText_word (b : Bool) : FlagText (if b then "on" else "off") b := by
  cases b with
  | false => exact ⟨[], "off".toList, [], rfl, by decide, by decide, by decide⟩
  | true => exact ⟨[], "on".toList, [], rfl, by decide, by decide, by decide⟩

theorem timeoutText_digits (n : UInt64) : TimeoutText (Decimal.text n.toNat) n :=
  ⟨[], [], Decimal.digits n.toNat, [], by simp [Decimal.text], by decide, by decide, .inl rfl,
    Decimal.digits_ne_nil _, fun _ => Decimal.isDigit_of_mem_digits, Decimal.ofDigits_digits _⟩

theorem overrides_spelledOut (c below : SessionConfig) : Overrides c.spelledOut below c where
  context := .inl ⟨_, rfl, rfl⟩
  database := .inl ⟨_, rfl, rfl⟩
  trace := .inl ⟨_, rfl, flagText_word c.trace⟩
  busyTimeout := .inl ⟨_, rfl, timeoutText_digits c.busyTimeout⟩

/-- Names are all that is ever checked: every configuration with usable names is accepted, whatever its
timeout. -/
theorem accepted_iff {c : SessionConfig} : c.Accepted ↔ c.Named := by
  constructor
  · rintro (⟨text, h⟩ | ⟨env, h⟩ | ⟨tree, env, path, h⟩)
    · exact (((ofToml_checked text).1 c).mp h).2
    · exact (((overridden_checked env {}).1 c).mp h).2
    · exact (((load_checked tree env path).1 c).mp h).2
  · intro hnamed
    exact .inr (.inl ⟨c.spelledOut,
      ((overridden_checked c.spelledOut {}).1 c).mpr ⟨overrides_spelledOut c {}, hnamed⟩⟩)

end SessionConfig

namespace Engine

/-! ## Calls that come back -/

theorem reply_ne_crashed {α β : Type} (ended : Ended α) (answer : α → Except EngineFailure β) :
    (ended.reply answer).1 ≠ .crashed := by
  unfold Ended.reply
  cases ended.result.bind answer <;> simp

theorem rollback_ne_crashed (c : Connection) (d : Disk) : (backend.rollback c d).1 ≠ .crashed :=
  reply_ne_crashed _ _

/-- Giving a handle up always comes back. -/
theorem told_ne_crash {c : Connection} {d d' : Disk} {calls : List Call} {told : Except Stop Unit}
    (h : Teardown backend c d calls told d') : told ≠ .error .crash := by
  cases h with
  | closed hflag hclose =>
      cases hclose
      simp [Reply.result]
  | @rolledBack first _ _ _ _ hflag hroll hfirst hclose =>
      cases hclose
      cases first <;> simp [Reply.told, Reply.result]
  | lost hflag hroll => exact absurd (congrArg Prod.fst hroll) (rollback_ne_crashed c d)

theorem cleared_comes_back (m : Machine Connection Disk) : (Session.cleared backend m).1 = .ok () := by
  cases hm : m.session.handle with
  | none => rw [Session.cleared_of_none hm]
  | some c =>
      obtain ⟨told, hgone, ⟨-, hok⟩ | ⟨hcrash, -⟩⟩ := Session.cleared_givesUp (b := backend) hm
      · exact hok
      · obtain ⟨calls, hteardown, -⟩ := hgone.calls
        exact absurd hcrash (told_ne_crash hteardown)

/-! ## The opening -/

/-- The database of a name can be opened. -/
def Opens (name : String) (d : Disk) : Prop := ∃ c d', Connection.connect name d = .ok (c, d')

theorem openFor_crashed_iff {config : SessionConfig} {d : Disk} :
    (Connection.openFor config d).1 = .crashed ↔
      longestTimeout < config.busyTimeout ∧ Opens config.database d := by
  unfold Connection.openFor Opens
  cases hconnect : Connection.connect config.database d with
  | error failure => simp
  | ok opened =>
      obtain ⟨c, d'⟩ := opened
      dsimp only
      split
      · next hlong => simp [hlong]
      · next hshort => simp [hshort]

theorem connect_result (m : Machine Connection Disk) :
    (Session.connect backend m).1 =
      match (Connection.openFor m.session.config (Session.cleared backend m).2.world).1 with
      | .done _ => .ok ()
      | .failed fault => .error (.error (.backend fault))
      | .crashed => .error .crash := by
  rw [Session.connect_run]
  have hcleared := cleared_comes_back m
  rcases hrun : Session.cleared backend m with ⟨result, m'⟩
  rw [hrun] at hcleared
  obtain rfl : result = .ok () := hcleared
  dsimp only
  have hopen : backend.openHandle = Connection.openFor := rfl
  rw [Session.opened, hopen]
  rcases Connection.openFor m.session.config m'.world with ⟨_ | _ | _, d⟩ <;> rfl

/-- The configurations that are accepted are those with usable names.  Connecting a session of the engine,
in any state, succeeds or gives the engine's fault unless the timeout is longer than the engine can count and
the database can be opened; in that case it does not come back. -/
theorem connect_crashes_iff (m : Machine Connection Disk) :
    (m.session.config.Accepted ↔ m.session.config.Named) ∧
    ((Session.connect backend m).1 = .error .crash ↔
      longestTimeout < m.session.config.busyTimeout ∧
        Opens m.session.config.database (Session.cleared backend m).2.world) ∧
    (((Session.connect backend m).1 = .ok () ∨
        ∃ fault, (Session.connect backend m).1 = .error (.error (.backend fault))) ↔
      ¬ (longestTimeout < m.session.config.busyTimeout ∧
        Opens m.session.config.database (Session.cleared backend m).2.world)) := by
  refine ⟨SessionConfig.accepted_iff, ?_⟩
  rw [← openFor_crashed_iff, connect_result]
  cases (Connection.openFor m.session.config (Session.cleared backend m).2.world).1 with
  | done c => simp
  | failed fault => simp
  | crashed => simp

/-! ## A usable configuration that is too patient -/

/-- A document that only sets the timeout, to one millisecond more than the engine can count. -/
def patientText : String := "busy_timeout_ms = 2147483648\n"

/-- The defaults with that timeout. -/
def patient : SessionConfig := { busyTimeout := 2147483648 }

theorem describes_patient : SessionConfig.Describes patientText patient := by
  have hread : Toml.read? patientText.toList =
      some [("busy_timeout_ms", SessionConfig.timeoutNode 2147483648)] := by
    have hdigits : Decimal.digits 2147483648 = "2147483648".toList := by
      simp [Decimal.digits, Decimal.digitChar]
    have htext : patientText.toList =
        SessionConfig.entryLine "busy_timeout_ms" (Decimal.digits 2147483648) ++ [] := by
      rw [hdigits]
      decide
    have hwritten := Toml.written_integer (by decide : 2147483648 < 9223372036854775808)
    rw [Toml.read?_of_head? (by decide), htext,
      SessionConfig.readStatements?_entryLine (by decide) (by decide) hwritten rfl]
    rfl
  refine ⟨_, hread, ?_, ?_, ?_, ?_⟩
  · exact .inr ⟨by decide, rfl⟩
  · exact .inr ⟨by decide, rfl⟩
  · exact .inr ⟨by decide, rfl⟩
  · exact .inl (List.mem_singleton.mpr rfl)

/-- The configuration is accepted, and connecting with it does not come back. -/
theorem connect_crashes_patient :
    SessionConfig.ofToml patientText = .ok patient ∧
      (Session.connect backend ⟨{ config := patient }, {}, []⟩).1 = .error .crash := by
  constructor
  · exact ((SessionConfig.ofToml_checked patientText).1 patient).mpr ⟨describes_patient, by decide⟩
  · rw [connect_result]
    have hopens : Opens patient.database {} := ⟨_, _, rfl⟩
    have hcrash := openFor_crashed_iff.mpr ⟨(by decide : longestTimeout < patient.busyTimeout), hopens⟩
    rw [Session.cleared_of_none rfl, hcrash]

end Engine

end OpenSql
