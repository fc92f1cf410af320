/-
# OpenSql.Proofs.Config.RoundTrip — a configuration is read back from the document it is written as.

The document has four lines, and each of them adds one entry.  What the names hold makes no difference:
quotes, backslashes, line breaks and control characters all come back as they were.  Only the timeout can
keep a configuration from being written, because the format's integers have a sign; and only blank names
can keep a written one from being read.
-/
import OpenSql.Config.Document
import OpenSql.Proofs.Toml.Lines

namespace OpenSql.SessionConfig

open Toml (Entries Node Written)

/-! ## Names -/

/-- Both names hold something other than white space. -/
def Named (c : SessionConfig) : Prop :=
  ¬ Text.AllBlank c.context.toList ∧ ¬ Text.AllBlank c.database.toList

instance (c : SessionConfig) : Decidable c.Named := inferInstanceAs (Decidable (_ ∧ _))

theorem isBlank_iff (s : String) : isBlank s = true ↔ Text.AllBlank s.toList := by
  rw [isBlank, List.isEmpty_iff, Text.trim_eq_nil_iff]

/-- The context is looked at first. -/
theorem validate_eq (c : SessionConfig) :
    c.validate =
      if Text.AllBlank c.context.toList then .error (.invalidValue "context" c.context)
      else if Text.AllBlank c.database.toList then .error (.invalidValue "database" c.database)
      else .ok () := by
  simp only [validate, isBlank_iff]

theorem validate_eq_ok_iff {c : SessionConfig} : c.validate = .ok () ↔ c.Named := by
  rw [validate_eq, Named]
  split
  · next h => simp [h]
  split
  · next h => simp [h]
  · next hcontext hdatabase => simp [hcontext, hdatabase]

/-! ## Documents -/

theorem readStatements?_entryLine {key : String} (hne : key.toList ≠ [])
    (hkey : key.toList.all Toml.isBareKey = true) {v : List Char} {x : Node} (hv : Written v x)
    {root : Entries} (hnew : root.get? key = none) (fuel : Nat) (rest : List Char) :
    Toml.readStatements? (fuel + 1) root [] (entryLine key v ++ rest) =
      Toml.readStatements? fuel (root.add key x) [] rest := by
  have hshape : entryLine key v ++ rest = key.toList ++ ' ' :: '=' :: ' ' :: (v ++ '\n' :: rest) := by
    simp [entryLine]
  have hname : String.ofList key.toList = key := String.ofList_toList
  rw [hshape, Toml.readStatements?_line hne (List.all_eq_true.mp hkey) hv (by rw [hname]; exact hnew), hname]

/-- The entries that a configuration is written as. -/
def entries (c : SessionConfig) : Entries :=
  [("context", .string c.context), ("database", .string c.database), ("trace", .boolean c.trace),
    ("busy_timeout_ms", .integer c.busyTimeout.toNat)]

/-- The lines that a configuration is written as. -/
def lines (c : SessionConfig) : List Char :=
  entryLine "context" (Toml.writeString c.context.toList) ++
    entryLine "database" (Toml.writeString c.database.toList) ++
    entryLine "trace" (truthChars c.trace) ++
    entryLine "busy_timeout_ms" (Decimal.digits c.busyTimeout.toNat)

theorem read?_lines {c : SessionConfig} (hfits : c.busyTimeout.toNat ≤ maxWritableTimeout) :
    Toml.read? c.lines = some c.entries := by
  have hcontext : Written (Toml.writeString c.context.toList) (.string c.context) := by
    simpa using Toml.written_string c.context.toList
  have hdatabase : Written (Toml.writeString c.database.toList) (.string c.database) := by
    simpa using Toml.written_string c.database.toList
  have htrace : Written (truthChars c.trace) (.boolean c.trace) := by
    have h := Toml.written_boolean c.trace
    cases hb : c.trace <;> rw [hb] at h <;> exact h
  have htimeout : Written (Decimal.digits c.busyTimeout.toNat) (.integer c.busyTimeout.toNat) :=
    Toml.written_integer (Nat.lt_succ_of_le hfits)
  -- Each line has a character at least, so there is fuel for all of them and for the end.
  obtain ⟨fuel, hfuel⟩ : ∃ fuel, c.lines.length + 1 = fuel + 1 + 1 + 1 + 1 + 1 :=
    ⟨c.lines.length - 4, by simp [lines, entryLine]⟩
  have hmark : c.lines.head? = some 'c' := rfl
  rw [Toml.read?_of_head? (by rw [hmark]; decide), hfuel]
  unfold lines
  rw [List.append_assoc, List.append_assoc,
    readStatements?_entryLine (by decide) (by decide) hcontext rfl,
    readStatements?_entryLine (by decide) (by decide) hdatabase rfl,
    readStatements?_entryLine (by decide) (by decide) htrace rfl,
    ← List.append_nil (entryLine "busy_timeout_ms" _),
    readStatements?_entryLine (by decide) (by decide) htimeout rfl]
  rfl

theorem ofEntries?_entries (c : SessionConfig) : ofEntries? c.entries = some c := by
  have htimeout : nodeTimeout? (.integer c.busyTimeout.toNat) = some c.busyTimeout := by
    have hlow : (0 : Int) ≤ c.busyTimeout.toNat := Int.natCast_nonneg _
    have hhigh : (c.busyTimeout.toNat : Int) < 18446744073709551616 := by
      have h := c.busyTimeout.toNat_lt
      omega
    simp only [nodeTimeout?, hlow, hhigh, and_self, if_true, Int.toNat_natCast]
    rw [UInt64.ofNat_toNat]
  have hfields : field? c.entries "context" nodeText? ({} : SessionConfig).context = some c.context ∧
      field? c.entries "database" nodeText? ({} : SessionConfig).database = some c.database ∧
      field? c.entries "trace" nodeFlag? ({} : SessionConfig).trace = some c.trace :=
    ⟨rfl, rfl, rfl⟩
  have hfield : field? c.entries "busy_timeout_ms" nodeTimeout? ({} : SessionConfig).busyTimeout =
      some c.busyTimeout := htimeout
  obtain ⟨hcontext, hdatabase, htrace⟩ := hfields
  simp only [ofEntries?, hcontext, hdatabase, htrace, hfield, Option.bind_eq_bind, Option.bind_some]
  rfl

theorem toToml_eq (c : SessionConfig) :
    c.toToml =
      if maxWritableTimeout < c.busyTimeout.toNat then
        .error (.unwritable "out-of-range value for u64 type")
      else .ok (String.ofList c.lines) := by
  rw [toToml, lines]

/-- What is wrong with the names is all that reading finds wrong with a written configuration. -/
theorem ofToml_lines {c : SessionConfig} (hfits : c.busyTimeout.toNat ≤ maxWritableTimeout) :
    ofToml (String.ofList c.lines) = c.validate.map fun _ => c := by
  have hread : (Toml.read? (String.ofList c.lines).toList).bind ofEntries? = some c := by
    rw [String.toList_ofList, read?_lines hfits, Option.bind_some, ofEntries?_entries]
  unfold ofToml
  simp only [hread]
  cases c.validate <;> rfl

/-- A configuration cannot be written exactly when its timeout exceeds the format's integers.  Any other
is written, whatever its names hold, and reading the document gives the configuration back, unless a name
is blank; then the first blank name is refused. -/
theorem toml_round_trip (c : SessionConfig) :
    ((∃ reason, c.toToml = .error (.unwritable reason)) ↔
      maxWritableTimeout < c.busyTimeout.toNat) ∧
    (c.busyTimeout.toNat ≤ maxWritableTimeout → ∃ text, c.toToml = .ok text ∧
      ofToml text =
        if Text.AllBlank c.context.toList then .error (.invalidValue "context" c.context)
        else if Text.AllBlank c.database.toList then .error (.invalidValue "database" c.database)
        else .ok c) := by
  rw [toToml_eq]
  constructor
  · constructor
    · rintro ⟨reason, h⟩
      refine Nat.lt_of_not_le fun hfits => ?_
      rw [if_neg (Nat.not_lt.mpr hfits)] at h
      cases h
    · intro hgreat
      exact ⟨_, if_pos hgreat⟩
  · intro hfits
    refine ⟨_, if_neg (Nat.not_lt.mpr hfits), ?_⟩
    rw [ofToml_lines hfits, validate_eq]
    split
    · rfl
    split
    · rfl
    · rfl

/-- Names that take the reader through tripled quotes and escapes. -/
def thorny : SessionConfig :=
  { context := "\"\"\"\\ '''\r\n\t\x00\"", database := "''\"\n\"''", busyTimeout := 9223372036854775807 }

theorem toml_round_trip_thorny :
    ∃ text, thorny.toToml = .ok text ∧ ofToml text = .ok thorny := by
  obtain ⟨text, hwritten, hread⟩ := (toml_round_trip thorny).2 (by decide)
  rw [if_neg (by decide), if_neg (by decide)] at hread
  exact ⟨text, hwritten, hread⟩

end OpenSql.SessionConfig
