/-
# OpenSql.Proofs.Storage — what a backend keeps, as its transactions see it.

There is one store that everybody sees, and a working copy on a handle while a transaction is open on it.
How either is represented is left open: a `Storage` reads them off the world and the handle.  Laws about a
backend are stated in these terms, and `Ledger` is a small backend that keeps all of them.
-/
import OpenSql.Proofs.Conversation

namespace OpenSql

variable {H W S : Type}

/-- Where a backend keeps the store that everybody sees, and the copy that a transaction works on. -/
structure Storage (H W S : Type) where
  committed : W → S
  working : H → W → S

/-- What a handle sees: the working copy while a transaction is open, else the common store. -/
def Storage.visible (storage : Storage H W S) (b : Backend H W) (h : H) (w : W) : S :=
  if b.inTransaction h w then storage.working h w else storage.committed w

/-- The session holds a handle, inside a transaction or outside of one, and the common store is the
given one. -/
structure Machine.Stands (b : Backend H W) (storage : Storage H W S) (inside : Bool) (store : S)
    (m : Machine H W) (h : H) : Prop where
  handle : m.session.handle = some h
  flag : b.inTransaction h m.world = inside
  committed : storage.committed m.world = store

/-- The text of a statement; calls for handles and for transactions have none. -/
def Call.text? : Call → Option String
  | .executeBatch sql | .execute sql | .query sql => some sql
  | _ => none

/-! ## A ledger of texts -/

namespace Ledger

/-- The texts of the statements that were carried out. -/
abbrev Texts := List String

/-- The fault of a statement that the ledger holds already. -/
def repeated : Fault := ⟨.uniqueViolation, "repeated", false⟩

/-- A statement whose failure ends the transaction that it fails in. -/
def isFatal (sql : String) : Bool := "UPDATE OR ROLLBACK".toList.isPrefixOf sql.toList

/-- Enters a text into what the handle sees, unless it is there already. -/
def enter (answer : α) (sql : String) (own : Option Texts) (all : Texts) :
    Reply α × Option Texts × Texts :=
  match own with
  | none => if sql ∈ all then (.failed repeated, none, all) else (.done answer, none, all ++ [sql])
  | some texts =>
    if sql ∈ texts then (.failed repeated, if isFatal sql then none else some texts, all)
    else (.done answer, some (texts ++ [sql]), all)

/-- The rows of a ledger: one for each text. -/
def rows (texts : Texts) : List Row := texts.map fun sql => .ofColumns [("text", .text sql)]

/-- The ledger.  A handle is the working copy, if a transaction is open. -/
def backend : Backend (Option Texts) Texts where
  name := "ledger"
  openHandle _ all := (.done none, all)
  executeBatch := enter ()
  execute := enter 1
  query _ own all := (.done (rows (own.getD all)), own, all)
  begin own all := match own with
    | none => (.done (), some all, all)
    | some texts => (.failed repeated, some texts, all)
  commit own all := match own with
    | none => (.failed repeated, none, all)
    | some texts => (.done (), none, texts)
  rollback own all := match own with
    | none => (.failed repeated, none, all)
    | some _ => (.done (), none, all)
  inTransaction own _ := own.isSome
  close _ all := (.done (), all)

/-- The storage of the ledger. -/
def storage : Storage (Option Texts) Texts Texts where
  committed all := all
  working own all := own.getD all

end Ledger

end OpenSql
