/-
# OpenSql.Proofs.Engine.Classification — what an engine's words say about its failure.

For a failure with the general code only the words of the message are left to go by, and the words hold
names that a statement chose freely.  At the front of a message the names do no harm: what stands before
them decides.  The one test that looks at a whole message is for the words of a syntax error, and it comes
after the tests for missing objects.  So a missing object keeps its class whatever it is called, as long as
its message begins as expected.  One form of message does not, and there the names decide after all.
-/
import OpenSql.Engine.Backend
import OpenSql.Proofs.Text.Words
import OpenSql.Request

namespace OpenSql

/-! ## Words of a message -/

namespace FaultKind

/-- The beginnings of messages about missing objects. -/
def missingWords : List String := ["no such table", "no such column", "no such view"]

/-- The message begins as one about a missing object. -/
def TellsMissing (s : List Char) : Prop := ∃ words ∈ missingWords, words.toList <+: s

instance (s : List Char) : Decidable (TellsMissing s) :=
  inferInstanceAs (Decidable (∃ words ∈ missingWords, words.toList <+: s))

/-- The message speaks of a syntax error, or begins as one about an input that stops too early. -/
def TellsSyntax (s : List Char) : Prop :=
  "syntax error".toList <:+: s ∨ "incomplete input".toList <+: s

variable {message : String}

theorem ofMessage_of_missing (h : TellsMissing message.toList) : ofMessage message = .undefinedObject := by
  obtain ⟨words, hmem, hwords⟩ := h
  refine if_pos ?_
  simp only [Bool.or_eq_true, Text.isSome_dropExact?_iff]
  simp only [missingWords, List.mem_cons, List.not_mem_nil, or_false] at hmem
  rcases hmem with rfl | rfl | rfl
  · exact .inl (.inl hwords)
  · exact .inl (.inr hwords)
  · exact .inr hwords

theorem ofMessage_of_present (h : ¬ TellsMissing message.toList) :
    ofMessage message =
      if Text.containsExact "syntax error".toList message.toList ||
        (Text.dropExact? "incomplete input".toList message.toList).isSome then .syntaxError
      else .other := by
  refine if_neg fun hbegins => h ?_
  simp only [Bool.or_eq_true, Text.isSome_dropExact?_iff] at hbegins
  rcases hbegins with (hwords | hwords) | hwords
  · exact ⟨"no such table", by decide, hwords⟩
  · exact ⟨"no such column", by decide, hwords⟩
  · exact ⟨"no such view", by decide, hwords⟩

theorem ofMessage_of_syntax (h : ¬ TellsMissing message.toList) (htells : TellsSyntax message.toList) :
    ofMessage message = .syntaxError := by
  rw [ofMessage_of_present h, if_pos]
  rw [Bool.or_eq_true, Text.containsExact_iff, Text.isSome_dropExact?_iff]
  exact htells

theorem ofMessage_of_neither (h : ¬ TellsMissing message.toList) (htells : ¬ TellsSyntax message.toList) :
    ofMessage message = .other := by
  rw [ofMessage_of_present h, if_neg]
  rw [Bool.or_eq_true, Text.containsExact_iff, Text.isSome_dropExact?_iff]
  exact htells

/-- A front that differs from the expected beginnings rules them out, whatever follows it. -/
theorem not_tellsMissing_append {front : List Char}
    (hfront : ∀ words ∈ missingWords, ¬ words.toList <+: front ∧ ¬ front <+: words.toList)
    (rest : List Char) : ¬ TellsMissing (front ++ rest) := by
  rintro ⟨words, hmem, hwords⟩
  obtain ⟨hshort, hlong⟩ := hfront words hmem
  exact Text.not_prefix_append hshort hlong rest hwords

/-- The code tells the kind. -/
theorem sqlcode_injective : Function.Injective sqlcode := by
  intro kind kind' h
  revert h
  cases kind <;> cases kind' <;> decide

end FaultKind

namespace Engine

/-! ## Messages of the engine -/

/-- What a statement names and the engine does not know. -/
inductive Missing where
  | table (name : String)
  | view (name : String)
  | column (name : String)
  /-- A column that a named table does not have. -/
  | columnOf (owner name : String)
deriving DecidableEq

/-- The engine's words for a missing object. -/
def Missing.message : Missing → String
  | table name => "no such table: " ++ name
  | view name => "no such view: " ++ name
  | column name => "no such column: " ++ name
  | columnOf owner name => "table " ++ owner ++ " has no column named " ++ name

/-- Where a statement stops being one. -/
inductive Misplaced where
  | near (token : String)
  /-- At the end of the text. -/
  | atEnd

/-- The engine's words for a text that is no statement. -/
def Misplaced.message : Misplaced → String
  | near token => "near \"" ++ token ++ "\": syntax error"
  | atEnd => "incomplete input"

/-- A failure with the general code, with a place in the text or without one. -/
def reported (message : String) : Option Nat → EngineFailure
  | none => .running .general message
  | some place => .reading .general message place

theorem kind_reported (message : String) (place : Option Nat) :
    (reported message place).kind = .ofMessage message := by
  cases place <;> rfl

/-! ## Missing objects -/

theorem tellsMissing_append (front : String) (hfront : FaultKind.TellsMissing front.toList)
    (name : String) : FaultKind.TellsMissing (front ++ name).toList := by
  obtain ⟨words, hmem, hwords⟩ := hfront
  rw [String.toList_append]
  exact ⟨words, hmem, hwords.trans (List.prefix_append _ _)⟩

/-- Apart from columns of a named table, the name of a missing object stands behind everything that the
classification looks at. -/
theorem Missing.tellsMissing {missing : Missing} (h : ∀ owner name, missing ≠ .columnOf owner name) :
    FaultKind.TellsMissing missing.message.toList := by
  cases missing with
  | table name => exact tellsMissing_append "no such table: " (by decide) name
  | view name => exact tellsMissing_append "no such view: " (by decide) name
  | column name => exact tellsMissing_append "no such column: " (by decide) name
  | columnOf owner name => exact absurd rfl (h owner name)

theorem toList_columnOf (owner name : String) :
    (Missing.columnOf owner name).message.toList =
      "table ".toList ++ (owner.toList ++ (" has no column named ".toList ++ name.toList)) := by
  show ("table " ++ owner ++ " has no column named " ++ name).toList = _
  simp only [String.toList_append, List.append_assoc]

theorem not_tellsMissing_columnOf (owner name : String) :
    ¬ FaultKind.TellsMissing (Missing.columnOf owner name).message.toList := by
  rw [toList_columnOf]
  exact FaultKind.not_tellsMissing_append (by decide) _

/-- The words of a syntax error do not run over the end of a name. -/
theorem tellsSyntax_columnOf_iff {owner name : String} :
    FaultKind.TellsSyntax (Missing.columnOf owner name).message.toList ↔
      "syntax error".toList <:+: owner.toList ∨ "syntax error".toList <:+: name.toList := by
  rw [toList_columnOf, FaultKind.TellsSyntax]
  constructor
  · rintro (hin | hbegins)
    · have hbehind := Text.infix_of_infix_append_of_avoids (by decide) hin
      obtain h | h := Text.infix_of_infix_append (by decide)
        ((by decide : " h".toList <+: " has no column named ".toList).trans (List.prefix_append _ _)) hbehind
      · exact .inl h
      · exact .inr (Text.infix_of_infix_append_of_avoids (by decide) h)
    · exact absurd hbegins (Text.not_prefix_append (by decide) (by decide) _)
  · rintro (h | h)
    · exact .inl (h.trans ((List.prefix_append _ _).isInfix.trans (List.suffix_append _ _).isInfix))
    · exact .inl (h.trans (((List.suffix_append _ _).trans (List.suffix_append _ _)).trans
        (List.suffix_append _ _)).isInfix)

theorem ofMessage_columnOf (owner name : String) :
    FaultKind.ofMessage (Missing.columnOf owner name).message =
      if "syntax error".toList <:+: owner.toList ∨ "syntax error".toList <:+: name.toList then .syntaxError
      else .other := by
  split
  · next hwords =>
      exact FaultKind.ofMessage_of_syntax (not_tellsMissing_columnOf owner name)
        (tellsSyntax_columnOf_iff.mpr hwords)
  · next hwords =>
      exact FaultKind.ofMessage_of_neither (not_tellsMissing_columnOf owner name)
        fun htells => hwords (tellsSyntax_columnOf_iff.mp htells)

theorem ofMessage_missing_iff {missing : Missing} :
    FaultKind.ofMessage missing.message = .undefinedObject ↔
      ∀ owner name, missing ≠ .columnOf owner name := by
  constructor
  · rintro hkind owner name rfl
    rw [ofMessage_columnOf] at hkind
    split at hkind <;> cases hkind
  · intro h
    exact FaultKind.ofMessage_of_missing (Missing.tellsMissing h)

/-! ## Texts that are no statement -/

theorem ofMessage_misplaced (misplaced : Misplaced) :
    FaultKind.ofMessage misplaced.message = .syntaxError := by
  cases misplaced with
  | near token =>
      have hmessage : (Misplaced.near token).message.toList =
          "near \"".toList ++ (token.toList ++ "\": syntax error".toList) := by
        show ("near \"" ++ token ++ "\": syntax error").toList = _
        simp only [String.toList_append, List.append_assoc]
      refine FaultKind.ofMessage_of_syntax ?_ (.inl ?_)
      · rw [hmessage]
        exact FaultKind.not_tellsMissing_append (by decide) _
      · rw [hmessage]
        have hend : "syntax error".toList <:+ "\": syntax error".toList := by decide
        exact ((hend.trans (List.suffix_append _ _)).trans (List.suffix_append _ _)).isInfix
  | atEnd =>
      exact FaultKind.ofMessage_of_syntax (by decide) (.inr (List.prefix_refl _))

/-- Failures with the general code, with a place in the text or without.  A missing object is classified as
one, with the code that goes with it, exactly when it is no column of a named table; such a column goes
with the syntax errors if one of the two names holds their words, and with everything else otherwise.  A
text that is no statement is always a syntax error. -/
theorem missing_classified_iff (place : Option Nat) :
    (∀ missing : Missing,
      let kind := (reported missing.message place).kind
      (kind = .undefinedObject ↔ ∀ owner name, missing ≠ .columnOf owner name) ∧
      (kind.sqlcode = -204 ↔ ∀ owner name, missing ≠ .columnOf owner name)) ∧
    (∀ owner name, (reported (Missing.columnOf owner name).message place).kind =
      if "syntax error".toList <:+: owner.toList ∨ "syntax error".toList <:+: name.toList then .syntaxError
      else .other) ∧
    ∀ misplaced : Misplaced,
      let kind := (reported misplaced.message place).kind
      kind = .syntaxError ∧ kind.sqlcode = -104 := by
  simp only [kind_reported]
  refine ⟨fun missing => ⟨ofMessage_missing_iff, ?_⟩, ofMessage_columnOf, fun misplaced => ?_⟩
  · rw [← ofMessage_missing_iff]
    exact FaultKind.sqlcode_injective.eq_iff' rfl
  · rw [ofMessage_misplaced]
    exact ⟨rfl, rfl⟩

/-! ## A column that is missing from its table -/

/-- An insertion that names a column its table does not have. -/
def strayColumn : List Request :=
  [.connect, .execute (.single "CREATE TABLE t (a INTEGER)"),
    .execute (.single "INSERT INTO t (b) VALUES (1)")]

/-- The backend's faults among the results of a run. -/
def faults (results : List Result) : List Fault :=
  results.filterMap fun result => match result with
    | .error (.error (.backend fault)) => some fault
    | _ => none

set_option maxRecDepth 10000 in
/-- On the engine the insertion fails for the missing column, and the fault is of no particular kind. -/
theorem missing_column_unclassified :
    faults ((Machine.start {} none {}).performAll backend strayColumn).1 =
        [⟨.other, (Missing.columnOf "t" "b").message, true⟩] ∧
      ¬ ∀ (missing : Missing) (place : Option Nat),
        (reported missing.message place).kind = .undefinedObject := by
  refine ⟨by decide +kernel, fun hall => ?_⟩
  exact absurd (hall (.columnOf "t" "b") none) (by decide)

end Engine

end OpenSql
