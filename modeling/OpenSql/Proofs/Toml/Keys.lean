/-
# OpenSql.Proofs.Toml.Keys — no key of a document repeats.

Statements change the root table in two ways: a key that the table does not have is added at the end, or
the node of a key is replaced.  Neither makes a key stand twice, so in the table of a whole document every
key has one node, and it does not matter at which place the entry stands.
-/
import OpenSql.Toml.Reader

namespace OpenSql.Toml

namespace Entries

/-! ## Keys of a table -/

/-- The keys of a table, in their order. -/
def keys (entries : Entries) : List String := entries.map (·.1)

theorem get?_eq_none_iff {entries : Entries} {key : String} :
    entries.get? key = none ↔ key ∉ entries.keys := by
  rw [get?, Option.map_eq_none_iff, List.find?_eq_none, keys, List.mem_map]
  constructor
  · rintro hnone ⟨entry, hmem, rfl⟩
    exact hnone entry hmem BEq.rfl
  · intro hnot entry hmem hkey
    exact hnot ⟨entry, hmem, beq_iff_eq.mp hkey⟩

theorem keys_replace (entries : Entries) (key : String) (node : Node) :
    (entries.replace key node).keys = entries.keys := by
  rw [keys, replace, List.map_map, keys]
  refine List.map_congr_left fun entry _ => ?_
  simp only [Function.comp_apply]
  split
  · next hkey => exact (beq_iff_eq.mp hkey).symm
  · rfl

theorem keys_add (entries : Entries) (key : String) (node : Node) :
    (entries.add key node).keys = entries.keys ++ [key] := by
  simp [add, keys]

/-- No key stands twice. -/
def Distinct (entries : Entries) : Prop := entries.keys.Nodup

theorem distinct_nil : Distinct [] := List.nodup_nil

theorem Distinct.replace {entries : Entries} (h : Distinct entries) (key : String) (node : Node) :
    Distinct (entries.replace key node) := by
  rwa [Distinct, keys_replace]

theorem Distinct.add {entries : Entries} (h : Distinct entries) {key : String}
    (hnew : entries.get? key = none) (node : Node) : Distinct (entries.add key node) := by
  rw [Distinct, keys_add, List.nodup_append]
  refine ⟨h, List.nodup_cons.mpr ⟨List.not_mem_nil, List.nodup_nil⟩, fun a ha b hb => ?_⟩
  rintro rfl
  obtain rfl := List.mem_singleton.mp hb
  exact get?_eq_none_iff.mp hnew ha

/-- Where no key repeats, a key's node is found at whatever place its entry stands. -/
theorem Distinct.get?_eq_some_iff {entries : Entries} (h : Distinct entries) {key : String}
    {node : Node} : entries.get? key = some node ↔ (key, node) ∈ entries := by
  induction entries with
  | nil => simp [get?]
  | cons entry entries ih =>
      obtain ⟨first, x⟩ := entry
      obtain ⟨hfirst, hrest⟩ := List.nodup_cons.mp h
      rw [List.mem_cons]
      by_cases hkey : first = key
      · subst hkey
        have hfound : get? first ((first, x) :: entries) = some x := by simp [get?]
        rw [hfound]
        constructor
        · intro heq
          exact .inl (by rw [Option.some.inj heq])
        · rintro (heq | hmem)
          · rw [(Prod.mk.inj heq).2]
          · exact absurd (List.mem_map_of_mem hmem) hfirst
      · have hpassed : get? key ((first, x) :: entries) = get? key entries := by simp [get?, hkey]
        rw [hpassed, ih hrest]
        constructor
        · exact .inr
        · rintro (heq | hmem)
          · exact absurd (Prod.mk.inj heq).1.symm hkey
          · exact hmem

/-! ## Statements -/

/-- A change that keeps the keys of a table distinct. -/
def Careful (change : Entries → Option Entries) : Prop :=
  ∀ before after, change before = some after → Distinct before → Distinct after

theorem careful_insertDotted (key : String) (node : Node) (allowed : Bool) (path : List String) :
    Careful (insertDotted key node allowed path) := by
  intro before after hchange h
  cases path with
  | nil =>
      rw [insertDotted] at hchange
      split at hchange
      · next hnew =>
          obtain ⟨-, hnone⟩ := Bool.and_eq_true_iff.mp hnew
          cases hchange
          exact h.add (Option.isNone_iff_eq_none.mp hnone) node
      · cases hchange
  | cons name path =>
      rw [insertDotted] at hchange
      split at hchange
      · next hnew =>
          obtain ⟨inner, -, rfl⟩ := Option.map_eq_some_iff.mp hchange
          exact h.add hnew _
      · cases hchange
      · obtain ⟨inner, -, rfl⟩ := Option.map_eq_some_iff.mp hchange
        exact h.replace _ _
      · split at hchange
        · cases hchange
        · obtain ⟨inner, -, rfl⟩ := Option.map_eq_some_iff.mp hchange
          exact h.replace _ _
      · cases hchange

theorem careful_insert (path : List String) (node : Node) : Careful (insert path node) := by
  intro before after hchange
  rw [insert] at hchange
  split at hchange
  · cases hchange
  · exact careful_insertDotted _ node true _ _ _ hchange

/-- Below the root nothing needs to be known of the change. -/
theorem Careful.atPath {change : Entries → Option Entries} (hcareful : Careful change)
    (path : List String) : Careful (atPath change path) := by
  intro before after hchange h
  cases path with
  | nil => exact hcareful _ _ hchange h
  | cons key path =>
      rw [Entries.atPath] at hchange
      split at hchange
      · next hnew =>
          obtain ⟨inner, -, rfl⟩ := Option.map_eq_some_iff.mp hchange
          exact h.add hnew _
      · obtain ⟨inner, -, rfl⟩ := Option.map_eq_some_iff.mp hchange
        exact h.replace _ _
      · split at hchange
        · cases hchange
        · obtain ⟨inner, -, rfl⟩ := Option.map_eq_some_iff.mp hchange
          exact h.replace _ _
      · cases hchange

theorem careful_openTable (path : List String) (key : String) : Careful (openTable path key) := by
  refine Careful.atPath ?_ path
  intro before after hchange h
  dsimp only at hchange
  split at hchange
  · next hnew =>
      cases hchange
      exact h.add hnew _
  · cases hchange
    exact h.replace _ _
  · cases hchange

theorem careful_openElement (path : List String) (key : String) : Careful (openElement path key) := by
  refine Careful.atPath ?_ path
  intro before after hchange h
  dsimp only at hchange
  split at hchange
  · next hnew =>
      cases hchange
      exact h.add hnew _
  · cases hchange
    exact h.replace _ _
  · cases hchange

end Entries

/-! ## Documents -/

open Entries

theorem distinct_readStatements? {fuel : Nat} {root entries : Entries} {path : List String}
    {s : List Char} (hread : readStatements? fuel root path s = some entries) (h : Distinct root) :
    Distinct entries := by
  induction fuel generalizing root path s with
  | zero => cases hread
  | succ fuel ih =>
      rw [readStatements?] at hread
      split at hread
      · cases hread
        exact h
      · obtain ⟨⟨path, key, rest⟩, -, hread⟩ := Option.bind_eq_some_iff.mp hread
        obtain ⟨opened, hopen, hread⟩ := Option.bind_eq_some_iff.mp hread
        exact ih hread (careful_openElement path key _ _ hopen h)
      · obtain ⟨⟨path, key, rest⟩, -, hread⟩ := Option.bind_eq_some_iff.mp hread
        obtain ⟨opened, hopen, hread⟩ := Option.bind_eq_some_iff.mp hread
        exact ih hread (careful_openTable path key _ _ hopen h)
      · split at hread
        · obtain ⟨rest, -, hread⟩ := Option.bind_eq_some_iff.mp hread
          exact ih hread h
        · obtain ⟨⟨names, x, rest⟩, -, hread⟩ := Option.bind_eq_some_iff.mp hread
          obtain ⟨entered, henter, hread⟩ := Option.bind_eq_some_iff.mp hread
          exact ih hread (Careful.atPath (careful_insert names x) path _ _ henter h)

/-- In a document that can be read no key of the root table stands twice. -/
theorem distinct_read? {s : List Char} {entries : Entries} (hread : read? s = some entries) :
    Distinct entries :=
  distinct_readStatements? hread distinct_nil

end OpenSql.Toml
