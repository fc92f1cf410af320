/-
# OpenSql.Proofs.Paging — what a cursor hands out over its life.

A cursor moves on by the whole size of each page, so its offset counts the rows asked for, and not the
rows handed out; past the end it stops at the greatest word.  Of a list no longer than that the pages
give every row once and in order, and a cursor that was closed answers nothing but that it is closed.
-/
import OpenSql.Cursor

namespace OpenSql.Cursor

/-! ## Uses of a cursor -/

/-- What is asked of a cursor. -/
inductive Use where
  | fetch (pageSize : UInt64)
  | close
deriving DecidableEq

/-- What a cursor gives. -/
inductive Given where
  | page (rows : List Row)
  | closed

/-- A use of a cursor, and the cursor behind it. -/
def use (c : Cursor) : Use → Except DbError Given × Cursor
  | .fetch pageSize => ((c.fetch pageSize).1.map .page, (c.fetch pageSize).2)
  | .close => (.ok .closed, c.close)

/-- Uses of a cursor, one after another. -/
def useAll (c : Cursor) : List Use → List (Except DbError Given) × Cursor
  | [] => ([], c)
  | next :: rest =>
    let (given, c) := c.use next
    let (more, c) := c.useAll rest
    (given :: more, c)

/-- The pages among what was given. -/
def pages (given : List (Except DbError Given)) : List (List Row) :=
  given.filterMap fun | .ok (.page rows) => some rows | _ => none

/-- The number of rows asked for before the cursor was first closed. -/
def asked : List Use → Nat
  | .fetch pageSize :: rest => pageSize.toNat + asked rest
  | _ => 0

/-! ## Offsets -/

theorem toNat_saturatingAdd (a b : UInt64) :
    (saturatingAdd a b).toNat = min (a.toNat + b.toNat) maxOffset := by
  have hfits : min (a.toNat + b.toNat) maxOffset < 2 ^ 64 := by
    unfold maxOffset
    omega
  rw [saturatingAdd, UInt64.toNat_ofNat', Nat.mod_eq_of_lt hfits]

theorem le_saturatingAdd (a b : UInt64) : a ≤ saturatingAdd a b := by
  have ha : a.toNat ≤ maxOffset := Nat.le_of_lt_succ a.toNat_lt
  rw [UInt64.le_iff_toNat_le, toNat_saturatingAdd]
  omega

/-- A page begins before it ends, and ends within the rows. -/
theorem bounds_ordered (c : Cursor) (pageSize : UInt64) :
    (c.bounds pageSize).1 ≤ (c.bounds pageSize).2 ∧ (c.bounds pageSize).2 ≤ c.total := by
  have hmoves := UInt64.le_iff_toNat_le.mp (le_saturatingAdd c.offset pageSize)
  simp only [bounds]
  omega

/-! ## Pages -/

/-- A cursor over the rows that has been asked for a number of them. -/
structure Stands (rows : List Row) (count : Nat) (c : Cursor) : Prop where
  rows : c.rows = rows.toArray
  offset : c.offset.toNat = min count maxOffset

variable {rows : List Row} {count : Nat} {c : Cursor}

theorem stands_ofRows (rows : List Row) : (ofRows rows).Stands rows 0 where
  rows := rfl
  offset := rfl

theorem Stands.total_eq (hc : c.Stands rows count) : c.total = rows.length := by
  rw [total, hc.rows, List.size_toArray]

theorem Stands.isExhausted_iff (hc : c.Stands rows count) (hrows : rows.length ≤ maxOffset) :
    c.isExhausted = true ↔ rows.length ≤ count := by
  rw [isExhausted, decide_eq_true_iff, hc.total_eq, hc.offset]
  omega

/-- A page is what follows the rows that were asked for so far. -/
theorem Stands.page_eq (hc : c.Stands rows count) (hrows : rows.length ≤ maxOffset)
    (pageSize : UInt64) :
    (c.rows.extract (c.bounds pageSize).1 (c.bounds pageSize).2).toList =
      (rows.drop count).take pageSize.toNat := by
  have hstart : (c.bounds pageSize).1 = min count rows.length := by
    simp only [bounds, hc.total_eq, hc.offset]
    omega
  have hstop : (c.bounds pageSize).2 = min (count + pageSize.toNat) rows.length := by
    simp only [bounds, hc.total_eq, toNat_saturatingAdd, hc.offset]
    omega
  rw [hc.rows, hstart, hstop, Array.toList_extract, List.extract_eq_take_drop]
  -- Past the end both bounds are cut down to the number of rows, and nothing lies between them.
  rcases Nat.le_total count rows.length with hle | hle
  · have hsize : min (count + pageSize.toNat) rows.length - min count rows.length =
        min pageSize.toNat (rows.drop count).length := by
      rw [List.length_drop]
      omega
    rw [hsize, Nat.min_eq_left hle, ← List.take_eq_take_min]
  · have hnone : min (count + pageSize.toNat) rows.length - min count rows.length = 0 := by omega
    rw [hnone, List.drop_eq_nil_of_le hle, List.take_zero, List.take_nil]

/-- A fetch gives the next page, and the cursor has been asked for so many rows more. -/
theorem Stands.fetch (hc : c.Stands rows count) (hrows : rows.length ≤ maxOffset)
    (hopen : c.isOpen = true) (pageSize : UInt64) :
    (c.fetch pageSize).1 = .ok ((rows.drop count).take pageSize.toNat) ∧
      (c.fetch pageSize).2.Stands rows (count + pageSize.toNat) ∧
      (c.fetch pageSize).2.isOpen = true := by
  unfold Cursor.fetch
  rw [if_pos hopen]
  refine ⟨congrArg Except.ok (hc.page_eq hrows pageSize), ⟨hc.rows, ?_⟩, hopen⟩
  show (saturatingAdd c.offset pageSize).toNat = _
  rw [toNat_saturatingAdd, hc.offset]
  omega

/-- A closed cursor stays as it is. -/
theorem use_of_closed (hclosed : c.isOpen = false) (next : Use) :
    c.use next = (match next with | .fetch _ => .error .cursorClosed | .close => .ok .closed, c) := by
  cases next with
  | fetch pageSize => simp [use, Cursor.fetch, hclosed, Except.map]
  | close =>
      rcases c with ⟨rows, offset, isOpen⟩
      subst hclosed
      rfl

theorem useAll_of_closed (hclosed : c.isOpen = false) (uses : List Use) :
    pages (c.useAll uses).1 = [] ∧ (c.useAll uses).2 = c := by
  induction uses with
  | nil => exact ⟨rfl, rfl⟩
  | cons next rest ih =>
      obtain ⟨hpages, hsame⟩ := ih
      unfold useAll
      rw [use_of_closed hclosed]
      refine ⟨?_, hsame⟩
      cases next <;> exact hpages

/-! ## Whole lives -/

/-- The pages of an open cursor make up the rows that are asked for before it is closed. -/
theorem Stands.useAll (hc : c.Stands rows count) (hrows : rows.length ≤ maxOffset)
    (hopen : c.isOpen = true) (uses : List Use) :
    (pages (c.useAll uses).1).flatten = (rows.drop count).take (asked uses) ∧
      (c.useAll uses).2.Stands rows (count + asked uses) ∧
      ((c.useAll uses).2.isOpen = true ↔ .close ∉ uses) := by
  -- On the uses: a fetch moves the count on, and after a closing nothing counts any more.
  induction uses generalizing c count with
  | nil => exact ⟨List.take_zero.symm, hc, by simp [Cursor.useAll, hopen]⟩
  | cons next rest ih =>
      unfold Cursor.useAll
      cases next with
      | fetch pageSize =>
          obtain ⟨hpage, hmoved, hstill⟩ := hc.fetch hrows hopen pageSize
          obtain ⟨hpages, hstands, hends⟩ := ih hmoved hstill
          have hgiven : (c.use (.fetch pageSize)).1 =
              .ok (.page ((rows.drop count).take pageSize.toNat)) := by
            simp only [use, hpage]
            rfl
          refine ⟨?_, ?_, ?_⟩
          · show (pages ((c.use (.fetch pageSize)).1 :: _)).flatten = _
            rw [hgiven]
            show (rows.drop count).take pageSize.toNat ++ List.flatten (pages _) = _
            rw [asked, List.take_add, List.drop_drop]
            exact congrArg _ hpages
          · rw [asked, ← Nat.add_assoc]
            exact hstands
          · exact hends.trans (by simp)
      | close =>
          have hclosed : c.close.isOpen = false := rfl
          obtain ⟨hpages, hsame⟩ := useAll_of_closed hclosed rest
          refine ⟨?_, ?_, ?_⟩
          · show List.flatten (pages (c.close.useAll rest).1) = _
            rw [hpages]
            exact List.take_zero.symm
          · show (c.close.useAll rest).2.Stands rows count
            rw [hsame]
            exact ⟨hc.rows, hc.offset⟩
          · show (c.close.useAll rest).2.isOpen = true ↔ _
            rw [hsame]
            simp [hclosed]

theorem offset_le_use (c : Cursor) (next : Use) : c.offset ≤ (c.use next).2.offset := by
  cases next with
  | fetch pageSize =>
      simp only [use, Cursor.fetch]
      split
      · exact le_saturatingAdd c.offset pageSize
      · exact UInt64.le_refl c.offset
  | close => exact UInt64.le_refl c.offset

/-- Over its life a cursor hands out its rows once each and in order, as many as were asked for before it
was closed.  Its offset is the number asked for, up to the greatest; it never goes back, and all rows
have been handed out exactly when it has come to their number.  Every page lies within the rows and is
as long as it was asked to be, or as long as what is left; and what was closed stays as it is. -/
theorem pages_are_first_rows {rows : List Row} (hrows : rows.length ≤ maxOffset) (uses : List Use) :
    let given := ((ofRows rows).useAll uses).1
    let c := ((ofRows rows).useAll uses).2
    (pages given).flatten = rows.take (min rows.length (asked uses)) ∧
    c.rows.toList = rows ∧ c.offset.toNat = min (asked uses) maxOffset ∧
    (c.isExhausted = true ↔ rows.length ≤ asked uses) ∧
    (∀ next, c.offset ≤ (c.use next).2.offset) ∧
    (∀ pageSize, (c.bounds pageSize).1 ≤ (c.bounds pageSize).2 ∧
      (c.bounds pageSize).2 ≤ c.rows.size) ∧
    (Use.close ∉ uses → ∀ pageSize, ∃ page, (c.use (.fetch pageSize)).1 = .ok (.page page) ∧
      page.length = min pageSize.toNat (rows.length - asked uses) ∧
      (c.isExhausted = true → page = [])) ∧
    (Use.close ∈ uses → ∀ next, c.use next =
      (match next with | .fetch _ => .error .cursorClosed | .close => .ok .closed, c)) := by
  intro given c
  obtain ⟨hpages, hstands, hopen⟩ := (stands_ofRows rows).useAll hrows rfl uses
  rw [Nat.zero_add] at hstands
  have hexhausted : c.isExhausted = true ↔ rows.length ≤ asked uses := hstands.isExhausted_iff hrows
  refine ⟨?_, ?_, hstands.offset, hexhausted, offset_le_use c, bounds_ordered c, ?_, ?_⟩
  · rw [hpages, List.drop_zero, Nat.min_comm, ← List.take_eq_take_min]
  · show c.rows.toList = rows
    rw [hstands.rows]
  · intro hstill pageSize
    obtain ⟨hpage, -⟩ := hstands.fetch hrows (hopen.mpr hstill) pageSize
    refine ⟨(rows.drop (asked uses)).take pageSize.toNat, ?_, ?_, ?_⟩
    · simp only [use]
      rw [hpage]
      rfl
    · rw [List.length_take, List.length_drop]
    · intro hall
      rw [List.drop_eq_nil_of_le (hexhausted.mp hall), List.take_nil]
  · intro hclosed next
    refine use_of_closed ?_ next
    exact Bool.eq_false_iff.mpr fun hstill => hopen.mp hstill hclosed

/-- A list of three rows, asked for two of them and then for more than there can be. -/
theorem pages_are_first_rows_of_three :
    let rows := [Row.ofColumns [("ID", .integer 0)], .ofColumns [("ID", .integer 1)], .empty]
    let uses := [.fetch 2, .fetch 18446744073709551615, .close]
    let c := ((ofRows rows).useAll uses).2
    rows.length ≤ maxOffset ∧ (pages ((ofRows rows).useAll uses).1).flatten = rows ∧
      c.offset.toNat = maxOffset ∧ c.isExhausted = true ∧
      c.use (.fetch 1) = (.error .cursorClosed, c) := by
  intro rows uses c
  have hrows : rows.length ≤ maxOffset := by decide
  obtain ⟨hpages, -, hoffset, hexhausted, -, -, -, hclosed⟩ := pages_are_first_rows hrows uses
  exact ⟨hrows, hpages, hoffset, hexhausted.mpr (by decide), hclosed (by decide) (.fetch 1)⟩

end OpenSql.Cursor
