/-
# OpenSql.Proofs.Options — the JSON form of options, scripts, outcomes and configurations.

Every value comes back from the form it is written in, also a key of no columns, which is not the same as no
key, and also the numbers at the ends of their ranges.  Objects that others have written may hold more than the
fields and hold them in any order.
-/
import Mathlib.Data.List.Basic
import OpenSql.Proofs.Json.Records

namespace OpenSql

open Json

/-- Writing and reading loses nothing. -/
def ReadsBack {α : Type} (write : α → Json) (read : Json → Decoded α) : Prop :=
  ∀ value, read (write value) = .ok value

/-! ## Round trips -/

theorem asOption_ofTexts (texts : List String) :
    asOption (asList asString) (.ofTexts texts) = .ok (some texts) :=
  congrArg (Except.map some) (asList_ofTexts texts)

theorem asIntegerIn_eq {low high n : Int} {typeName : String} (h : low ≤ n ∧ n ≤ high) :
    asIntegerIn low high typeName (.integer n) = .ok n :=
  if_pos h

section

-- The names that are written are literals, so that sorting the members and finding their fields is evaluation.
attribute [local simp] RecordType.decode RecordType.sortedMembers RecordType.insertMember_of_lt
  RecordType.insertMember_of_gt RecordType.insertMember_nil RecordType.setMembers RecordType.missing? requiredField
  optionalField asString asBool asList_ofTexts asOption_ofTexts asIntegerIn_eq Except.map bind Except.bind

theorem SelectOptions.readsBack : ReadsBack toJson ofJson := by
  rintro ⟨select, _ | keys⟩ <;> simp (disch := decide) [ofJson, toJson, recordType]

theorem InsertOptions.readsBack : ReadsBack toJson ofJson := by
  rintro ⟨table, columns, values⟩
  simp (disch := decide) [ofJson, toJson, recordType]

theorem UpdateOptions.readsBack : ReadsBack toJson ofJson := by
  rintro ⟨table, assignments, predicate⟩
  simp (disch := decide) [ofJson, toJson, recordType]

theorem DeleteOptions.readsBack : ReadsBack toJson ofJson := by
  rintro ⟨table, predicate⟩
  simp (disch := decide) [ofJson, toJson, recordType]

theorem Outcome.readsBack : ReadsBack toJson ofJson := by
  rintro ⟨subrc, dbcnt⟩
  have hsubrc : -2147483648 ≤ subrc.toInt ∧ subrc.toInt ≤ 2147483647 :=
    ⟨subrc.le_toInt, Int.lt_add_one_iff.mp subrc.toInt_lt⟩
  have hdbcnt : -9223372036854775808 ≤ dbcnt.toInt ∧ dbcnt.toInt ≤ 9223372036854775807 :=
    ⟨dbcnt.le_toInt, Int.lt_add_one_iff.mp dbcnt.toInt_lt⟩
  simp (disch := first | decide | assumption) [ofJson, toJson, recordType]

theorem SessionConfig.readsBack : ReadsBack toJson ofJson := by
  rintro ⟨context, database, trace, busyTimeout⟩
  have hlt := busyTimeout.toNat_lt
  have hfits : (0 : Int) ≤ busyTimeout.toNat ∧ (busyTimeout.toNat : Int) ≤ 18446744073709551615 := by omega
  simp (disch := first | decide | assumption) [ofJson, toJson, recordType]

theorem Script.readsBack : ReadsBack toJson ofJson := by
  rintro (sql | scripts)
  · rfl
  · rw [toJson, ofJson, asList_ofTexts]
    rfl

end

/-! ## Members that are left out -/

theorem SelectOptions.resets_primaryKey : ResetsWithout "primaryKey" ({ · with primaryKey := none }) ofJson :=
  recordType.resetsWithout rfl <| List.forall_iff_forall_mem.mp
    ⟨.other (by decide) fun _ _ => rfl, .own fun _ _ => rfl⟩

namespace SessionConfig

theorem resets_context : ResetsWithout "context" ({ · with context := "DEFAULT" }) ofJson :=
  recordType.resetsWithout rfl <| List.forall_iff_forall_mem.mp
    ⟨.own fun _ _ => rfl, .other (by decide) fun _ _ => rfl, .other (by decide) fun _ _ => rfl,
      .other (by decide) fun _ _ => rfl⟩

theorem resets_database : ResetsWithout "database" ({ · with database := ":memory:" }) ofJson :=
  recordType.resetsWithout rfl <| List.forall_iff_forall_mem.mp
    ⟨.other (by decide) fun _ _ => rfl, .own fun _ _ => rfl, .other (by decide) fun _ _ => rfl,
      .other (by decide) fun _ _ => rfl⟩

theorem resets_trace : ResetsWithout "trace" ({ · with trace := false }) ofJson :=
  recordType.resetsWithout rfl <| List.forall_iff_forall_mem.mp
    ⟨.other (by decide) fun _ _ => rfl, .other (by decide) fun _ _ => rfl, .own fun _ _ => rfl,
      .other (by decide) fun _ _ => rfl⟩

theorem resets_busyTimeout : ResetsWithout "busy_timeout_ms" ({ · with busyTimeout := 5000 }) ofJson :=
  recordType.resetsWithout rfl <| List.forall_iff_forall_mem.mp
    ⟨.other (by decide) fun _ _ => rfl, .other (by decide) fun _ _ => rfl, .other (by decide) fun _ _ => rfl,
      .own fun _ _ => rfl⟩

end SessionConfig

/-- What is written is read back, for each type and each of its values.  The readers of the six record types
take the members by their names, in any order and among any others, and of a configuration each member may be
left out, as may the key columns of a selection: then the value has the default there. -/
theorem options_read_back :
    (ReadsBack SelectOptions.toJson SelectOptions.ofJson ∧
      ReadsBack InsertOptions.toJson InsertOptions.ofJson ∧
      ReadsBack UpdateOptions.toJson UpdateOptions.ofJson ∧
      ReadsBack DeleteOptions.toJson DeleteOptions.ofJson ∧
      ReadsBack Script.toJson Script.ofJson ∧
      ReadsBack Outcome.toJson Outcome.ofJson ∧
      ReadsBack SessionConfig.toJson SessionConfig.ofJson) ∧
    (ReadsByName ["select", "primaryKey"] SelectOptions.ofJson ∧
      ReadsByName ["table", "columns", "values"] InsertOptions.ofJson ∧
      ReadsByName ["table", "set", "where"] UpdateOptions.ofJson ∧
      ReadsByName ["table", "where"] DeleteOptions.ofJson ∧
      ReadsByName ["subrc", "dbcnt"] Outcome.ofJson ∧
      ReadsByName ["context", "database", "trace", "busy_timeout_ms"] SessionConfig.ofJson) ∧
    ResetsWithout "primaryKey" ({ · with primaryKey := none }) SelectOptions.ofJson ∧
    ResetsWithout "context" ({ · with context := "DEFAULT" }) SessionConfig.ofJson ∧
    ResetsWithout "database" ({ · with database := ":memory:" }) SessionConfig.ofJson ∧
    ResetsWithout "trace" ({ · with trace := false }) SessionConfig.ofJson ∧
    ResetsWithout "busy_timeout_ms" ({ · with busyTimeout := 5000 }) SessionConfig.ofJson := by
  refine ⟨⟨SelectOptions.readsBack, InsertOptions.readsBack, UpdateOptions.readsBack, DeleteOptions.readsBack,
    Script.readsBack, Outcome.readsBack, SessionConfig.readsBack⟩, ⟨?_, ?_, ?_, ?_, ?_, ?_⟩,
    SelectOptions.resets_primaryKey, SessionConfig.resets_context, SessionConfig.resets_database,
    SessionConfig.resets_trace, SessionConfig.resets_busyTimeout⟩
  · exact SelectOptions.recordType.readsByName
  · exact InsertOptions.recordType.readsByName
  · exact UpdateOptions.recordType.readsByName
  · exact DeleteOptions.recordType.readsByName
  · exact Outcome.recordType.readsByName
  · exact SessionConfig.recordType.readsByName

/-- A key of no columns, in front of the statement and behind a member that no field has. -/
theorem options_read_back_elsewhere :
    SelectOptions.ofJson (.object
        [("note", .array []), ("primaryKey", .ofTexts []), ("select", .string "SELECT * FROM t")]) =
      .ok ⟨"SELECT * FROM t", some []⟩ := by
  have hname : ReadsByName ["select", "primaryKey"] SelectOptions.ofJson := options_read_back.2.1.1
  calc SelectOptions.ofJson (.object
          [("note", .array []), ("primaryKey", .ofTexts []), ("select", .string "SELECT * FROM t")])
      = SelectOptions.ofJson (.object [("primaryKey", .ofTexts []), ("select", .string "SELECT * FROM t")]) :=
        hname.unknown (by simp)
    _ = SelectOptions.ofJson (.object [("select", .string "SELECT * FROM t"), ("primaryKey", .ofTexts [])]) :=
        hname.reordered (by simp) (.swap ..)
    _ = .ok ⟨"SELECT * FROM t", some []⟩ := options_read_back.1.1 ⟨"SELECT * FROM t", some []⟩

end OpenSql
