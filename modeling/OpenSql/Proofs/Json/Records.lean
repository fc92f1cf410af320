/-
# OpenSql.Proofs.Json.Records — what a record takes from an object.

The members of an object are put in the order of their names before they set the fields.  So it plays no part
where a member stands, and one whose name is no field's might as well not stand there.  A field that has a
default and is touched by no other field comes back to that default when its member goes.
-/
import Mathlib.Data.List.Find
import Mathlib.Data.List.Induction
import OpenSql.Options.Form

namespace OpenSql.Json

/-! ## Lists -/

/-- What is written element by element is read element by element. -/
theorem mapM_map_eq {m : Type → Type} [Monad m] [LawfulMonad m] {α β γ : Type} {write : α → β}
    {read : β → m γ} {xs : List α} {result : α → γ} (h : ∀ x ∈ xs, read (write x) = pure (result x)) :
    (xs.map write).mapM read = pure (xs.map result) := by
  induction xs with
  | nil => simp
  | cons x xs ih =>
      rw [List.map_cons, List.mapM_cons, h x List.mem_cons_self,
        ih fun y hy => h y (List.mem_cons_of_mem x hy)]
      simp

theorem asList_ofTexts (texts : List String) : asList asString (.ofTexts texts) = .ok texts := by
  have hread : ∀ s ∈ texts, asString (.string s) = pure s := fun _ _ => rfl
  exact (mapM_map_eq hread).trans (congrArg Except.ok (List.map_id' texts))

/-! ## What a reader takes from an object -/

/-- An object is read by the names of its members: only those of the given names count, wherever they stand. -/
structure ReadsByName {α : Type} (names : List String) (read : Json → Decoded α) : Prop where
  /-- Members of other names may come and go. -/
  unknown {members members' : List (String × Json)}
    (same : members'.filter (·.1 ∈ names) = members.filter (·.1 ∈ names)) :
    read (.object members') = read (.object members)
  /-- Members may change their places, unless a name is repeated: then it is the last of its members that
  counts. -/
  reordered {members members' : List (String × Json)} (distinct : (members.map (·.1)).Nodup)
    (places : members'.Perm members) : read (.object members') = read (.object members)

/-- When an object is read, the same object without its members of a name is read too, as what `reset` makes of
the value. -/
def ResetsWithout {α : Type} (name : String) (reset : α → α) (read : Json → Decoded α) : Prop :=
  ∀ (members : List (String × Json)) (value : α), read (.object members) = .ok value →
    read (.object (members.filter (·.1 != name))) = .ok (reset value)

namespace RecordType

variable {σ : Type} {r : RecordType σ} {m n : String × Json} {members others sorted : List (String × Json)}
  {name : String} {reset : σ → σ} {record result : σ}

/-! ## The order of the names -/

/-- The members stand in the order of their names, and no name is repeated. -/
def Ordered (members : List (String × Json)) : Prop := members.Pairwise (·.1 < ·.1)

theorem Ordered.nodup (h : Ordered members) : members.Nodup := by
  refine List.Pairwise.imp ?_ h
  rintro m n hlt rfl
  exact String.lt_irrefl _ hlt

/-- Two ordered lists of the same members are one list. -/
theorem Ordered.ext (h : Ordered members) (hother : Ordered others)
    (hmem : ∀ n, n ∈ members ↔ n ∈ others) : members = others := by
  have hperm := (List.perm_ext_iff_of_nodup h.nodup hother.nodup).mpr hmem
  exact hperm.eq_of_pairwise (fun m n _ _ hlt hgt => absurd hgt (String.lt_asymm hlt)) h hother

theorem Ordered.filter (h : Ordered members) (keep : String × Json → Bool) : Ordered (members.filter keep) :=
  List.Pairwise.filter keep h

theorem insertMember_nil : insertMember m [] = [m] := rfl

theorem insertMember_of_lt {key : String} {x y : Json} (h : key < name) :
    insertMember (key, x) ((name, y) :: sorted) = (key, x) :: (name, y) :: sorted := by
  rw [insertMember, if_neg (by simpa using fun heq : key = name => String.lt_irrefl _ (heq ▸ h)), if_pos h]

theorem insertMember_of_gt {key : String} {x y : Json} (h : name < key) :
    insertMember (key, x) ((name, y) :: sorted) = (name, y) :: insertMember (key, x) sorted := by
  rw [insertMember, if_neg (by simpa using fun heq : key = name => String.lt_irrefl _ (heq ▸ h)),
    if_neg (String.lt_asymm h)]

theorem mem_insertMember_iff (h : Ordered sorted) :
    n ∈ insertMember m sorted ↔ n = m ∨ n ∈ sorted ∧ n.1 ≠ m.1 := by
  induction sorted with
  | nil => simp [insertMember]
  | cons first rest ih =>
      obtain ⟨hfirst, hrest⟩ := List.pairwise_cons.mp h
      have hlater : n ∈ rest → first.1 ≠ n.1 := fun hn heq => String.lt_irrefl _ (heq ▸ hfirst n hn)
      rw [insertMember]
      split_ifs with hsame hbefore
      · have hsame : m.1 = first.1 := eq_of_beq hsame
        grind
      · have hfar : n ∈ rest → m.1 ≠ n.1 := fun hn heq =>
          String.lt_asymm hbefore (heq ▸ hfirst n hn)
        have hnear : m.1 ≠ first.1 := fun heq => hsame (beq_iff_eq.mpr heq)
        grind
      · have hnear : m.1 ≠ first.1 := fun heq => hsame (beq_iff_eq.mpr heq)
        rw [List.mem_cons, ih hrest]
        grind

theorem ordered_insertMember (h : Ordered sorted) : Ordered (insertMember m sorted) := by
  induction sorted with
  | nil => exact List.pairwise_singleton ..
  | cons first rest ih =>
      obtain ⟨hfirst, hrest⟩ := List.pairwise_cons.mp h
      rw [insertMember]
      split_ifs with hsame hbefore
      · have hsame : m.1 = first.1 := eq_of_beq hsame
        exact List.pairwise_cons.mpr ⟨fun n hn => hsame ▸ hfirst n hn, hrest⟩
      · refine List.pairwise_cons.mpr ⟨fun n hn => ?_, h⟩
        rcases List.mem_cons.mp hn with rfl | hn
        · exact hbefore
        · exact String.lt_trans hbefore (hfirst n hn)
      · have hafter : first.1 < m.1 := by
          have hle : first.1 ≤ m.1 := String.not_lt.mp hbefore
          by_contra hge
          exact hsame (beq_iff_eq.mpr (String.le_antisymm (String.not_lt.mp hge) hle))
        refine List.pairwise_cons.mpr ⟨fun n hn => ?_, ih hrest⟩
        rcases (mem_insertMember_iff hrest).mp hn with rfl | ⟨hn, -⟩
        · exact hafter
        · exact hfirst n hn

theorem sortedMembers_concat : sortedMembers (members ++ [m]) = insertMember m (sortedMembers members) :=
  List.foldl_append

theorem ordered_sortedMembers (members : List (String × Json)) : Ordered (sortedMembers members) := by
  induction members using List.reverseRecOn with
  | nil => exact .nil
  | append_singleton members m ih =>
      rw [sortedMembers_concat]
      exact ordered_insertMember ih

/-- Leaving out all members of some names leaves out the same of the sorted members. -/
theorem sortedMembers_filter (keep : String → Bool) (members : List (String × Json)) :
    sortedMembers (members.filter (keep ·.1)) = (sortedMembers members).filter (keep ·.1) := by
  -- From the end, since the last member is the last to be put in.  Both sides are in order, so it is enough that
  -- they have the same members.
  induction members using List.reverseRecOn with
  | nil => rfl
  | append_singleton members m ih =>
      have hsorted := ordered_sortedMembers members
      have hkept := hsorted.filter (keep ·.1)
      rw [List.filter_append, sortedMembers_concat]
      cases hm : keep m.1 with
      | true =>
          have hlast : [m].filter (keep ·.1) = [m] := by simp [hm]
          rw [hlast, sortedMembers_concat, ih]
          refine (ordered_insertMember hkept).ext ((ordered_insertMember hsorted).filter _) fun n => ?_
          rw [mem_insertMember_iff hkept, List.mem_filter, List.mem_filter, mem_insertMember_iff hsorted]
          grind
      | false =>
          have hlast : [m].filter (keep ·.1) = [] := by simp [hm]
          rw [hlast, List.append_nil, ih]
          refine hkept.ext ((ordered_insertMember hsorted).filter _) fun n => ?_
          rw [List.mem_filter, List.mem_filter, mem_insertMember_iff hsorted]
          grind

/-- Where no name is repeated, sorting keeps every member. -/
theorem mem_sortedMembers_iff (h : (members.map (·.1)).Nodup) : n ∈ sortedMembers members ↔ n ∈ members := by
  induction members using List.reverseRecOn with
  | nil => rfl
  | append_singleton members m ih =>
      rw [List.map_append, List.nodup_append] at h
      obtain ⟨hbefore, -, happart⟩ := h
      have hother : n ∈ members → n.1 ≠ m.1 := fun hn =>
        happart n.1 (List.mem_map_of_mem hn) m.1 List.mem_cons_self
      rw [sortedMembers_concat, mem_insertMember_iff (ordered_sortedMembers members), ih hbefore]
      grind

theorem sortedMembers_of_perm (h : (members.map (·.1)).Nodup) (hperm : others.Perm members) :
    sortedMembers others = sortedMembers members := by
  have hother : (others.map (·.1)).Nodup := (hperm.map _).nodup_iff.mpr h
  refine (ordered_sortedMembers others).ext (ordered_sortedMembers members) fun n => ?_
  rw [mem_sortedMembers_iff hother, mem_sortedMembers_iff h, hperm.mem_iff]

/-- An object is read when its members fit and no required field is missing. -/
theorem decode_object_eq_ok_iff : r.decode (.object members) = .ok result ↔
    r.setMembers (sortedMembers members) r.start = .ok result ∧ r.missing? (sortedMembers members) = none := by
  rw [decode]
  cases r.setMembers (sortedMembers members) r.start <;> cases r.missing? (sortedMembers members) <;>
    simp [bind, Except.bind]

/-! ## Members of unknown names -/

/-- The names of the fields. -/
def names (r : RecordType σ) : List String := r.fields.map (·.name)

theorem setMembers_unknown {x : Json} (h : r.fields.find? (·.name == name) = none) :
    r.setMembers ((name, x) :: members) record = r.setMembers members record := by
  rw [setMembers, h]

theorem setMembers_field {x : Json} {field : RecordField σ} (h : r.fields.find? (·.name == name) = some field) :
    r.setMembers ((name, x) :: members) record = field.set x record >>= r.setMembers members := by
  rw [setMembers, h]

theorem setMembers_known :
    r.setMembers (members.filter (·.1 ∈ r.names)) record = r.setMembers members record := by
  induction members generalizing record with
  | nil => rfl
  | cons m rest ih =>
      obtain ⟨name, value⟩ := m
      cases hfield : r.fields.find? (·.name == name) with
      | none =>
          have hname : name ∉ r.names := by
            intro hname
            obtain ⟨field, hmem, rfl⟩ := List.mem_map.mp hname
            simpa using List.find?_eq_none.mp hfield field hmem
          rw [List.filter_cons_of_neg (by simpa using hname), setMembers_unknown hfield]
          exact ih
      | some field =>
          have hname : name ∈ r.names :=
            List.mem_map.mpr ⟨field, List.mem_of_find?_eq_some hfield, by simpa using List.find?_some hfield⟩
          rw [List.filter_cons_of_pos (by simpa using hname), setMembers_field hfield, setMembers_field hfield]
          exact bind_congr fun _ => ih

/-- Which field is missed depends on the members only by the names of required fields. -/
theorem missing?_filter (keep : String → Bool) (h : ∀ field ∈ r.fields, field.required → keep field.name) :
    r.missing? (members.filter (keep ·.1)) = r.missing? members := by
  refine List.find?_congr fun field hfield => ?_
  cases hrequired : field.required with
  | false => rfl
  | true =>
      have hkeep := h field hfield hrequired
      rw [List.any_filter, Bool.true_and, Bool.true_and]
      refine congrArg not (List.any_congr rfl fun m => ?_)
      cases hm : m.1 == field.name with
      | false => exact Bool.and_false _
      | true => rw [eq_of_beq hm, hkeep]; rfl

theorem decode_known : r.decode (.object (members.filter (·.1 ∈ r.names))) = r.decode (.object members) := by
  have hmissing (members : List (String × Json)) :
      r.missing? (members.filter (·.1 ∈ r.names)) = r.missing? members :=
    missing?_filter (decide <| · ∈ r.names) fun field hfield _ => decide_eq_true (List.mem_map_of_mem hfield)
  rw [decode, decode, sortedMembers_filter (fun name => decide (name ∈ r.names))]
  simp only [setMembers_known, hmissing]

theorem readsByName (r : RecordType σ) : ReadsByName r.names r.decode where
  unknown {members members'} same := by
    rw [← decode_known, same, decode_known]
  reordered {members members'} distinct places := by
    rw [decode, decode, sortedMembers_of_perm distinct places]

/-! ## Fields with a default -/

/-- How a field stands to the one named `name`, which `reset` puts back to its default: it is that field, has a
default and overwrites it, or it is another one and is set beside it. -/
inductive Beside (name : String) (reset : σ → σ) : RecordField σ → Prop where
  | own {α : Type} {read : Json → Decoded α} {set : σ → α → σ}
    (h : ∀ record x, reset (set record x) = reset record) :
    Beside name reset (optionalField name read set)
  | other {α : Type} {other : String} {read : Json → Decoded α} {set : σ → α → σ} {required : Bool}
    (hname : other ≠ name) (h : ∀ record x, set (reset record) x = reset (set record x)) :
    Beside name reset ⟨other, fun x record => (read x).map (set record), required⟩

namespace Beside

variable {field : RecordField σ} {x : Json}

theorem required_eq (h : Beside name reset field) (hname : field.name = name) : field.required = false := by
  cases h with
  | own => rfl
  | other hother => exact absurd hname hother

theorem reset_eq (h : Beside name reset field) (hname : field.name = name)
    (hset : field.set x record = .ok result) : reset result = reset record := by
  cases h with
  | @own α read set h =>
      change (read x).map (set record) = .ok result at hset
      cases hread : read x with
      | error e => rw [hread] at hset; cases hset
      | ok value =>
          rw [hread] at hset
          cases hset
          exact h record value
  | other hother => exact absurd hname hother

theorem set_reset (h : Beside name reset field) (hname : field.name ≠ name)
    (hset : field.set x record = .ok result) : field.set x (reset record) = .ok (reset result) := by
  cases h with
  | own => exact absurd rfl hname
  | @other α other read set required _ h =>
      change (read x).map (set record) = .ok result at hset
      change (read x).map (set (reset record)) = .ok (reset result)
      cases hread : read x with
      | error e => rw [hread] at hset; cases hset
      | ok value =>
          rw [hread] at hset
          cases hset
          exact congrArg Except.ok (h record value)

end Beside

/-- The record that the members set is carried along with what `reset` makes of it, which the members of the
other names set on their own. -/
theorem setMembers_reset (hfields : ∀ field ∈ r.fields, Beside name reset field)
    (h : r.setMembers members record = .ok result) :
    r.setMembers (members.filter (·.1 != name)) (reset record) = .ok (reset result) := by
  -- For any record to go on from: `reset` of the one is what the other members find.
  induction members generalizing record with
  | nil =>
      cases h
      rfl
  | cons m rest ih =>
      obtain ⟨key, x⟩ := m
      cases hfield : r.fields.find? (·.name == key) with
      | none =>
          rw [setMembers_unknown hfield] at h
          rw [List.filter_cons]
          split_ifs
          · rw [setMembers_unknown hfield]
            exact ih h
          · exact ih h
      | some field =>
          rw [setMembers_field hfield] at h
          obtain rfl : field.name = key := by simpa using List.find?_some hfield
          have hbeside := hfields field (List.mem_of_find?_eq_some hfield)
          cases hset : field.set x record with
          | error e => rw [hset] at h; cases h
          | ok next =>
              rw [hset] at h
              by_cases hname : field.name = name
              · rw [List.filter_cons_of_neg (by simp [hname]), ← hbeside.reset_eq hname hset]
                exact ih h
              · rw [List.filter_cons_of_pos (by simp [hname]), setMembers_field hfield,
                  hbeside.set_reset hname hset]
                exact ih h

theorem resetsWithout (hstart : reset r.start = r.start) (hfields : ∀ field ∈ r.fields, Beside name reset field) :
    ResetsWithout name reset r.decode := by
  intro members result h
  have hmissing : r.missing? ((sortedMembers members).filter (·.1 != name)) = r.missing? (sortedMembers members) :=
    missing?_filter (· != name) fun field hfield hrequired => bne_iff_ne.mpr fun hname => by
      simp [(hfields field hfield).required_eq hname] at hrequired
  obtain ⟨hset, hnone⟩ := decode_object_eq_ok_iff.mp h
  refine decode_object_eq_ok_iff.mpr ?_
  rw [sortedMembers_filter (· != name)]
  exact ⟨hstart ▸ setMembers_reset hfields hset, hmissing.trans hnone⟩

end RecordType

end OpenSql.Json
