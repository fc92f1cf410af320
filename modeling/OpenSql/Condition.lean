/-
# OpenSql.Condition — faults of queries as conditions that a program can catch.

A session may hold a mapper, which turns the fault of a query into a condition of some class.  The
class is compared without the case of its letters.
-/
import OpenSql.Fault

namespace OpenSql

/-- A condition with the diagnostics of the fault behind it. -/
structure Condition where
  className : String
  message : String
  sqlcode : Int
  kind : FaultKind
deriving DecidableEq

/-- Turns a fault into the condition raised for it. -/
abbrev ConditionMapper := Fault → Condition

namespace Condition

/-- The condition of a class that carries a fault. -/
def ofFault (className : String) (fault : Fault) : Condition :=
  ⟨className, fault.message, fault.kind.sqlcode, fault.kind⟩

/-- The condition has the class, whatever the case of its letters. -/
def isClass (c : Condition) (className : String) : Bool := Text.sameLetters c.className className

/-- The class and the message in one line. -/
def text (c : Condition) : String := c.className ++ ": " ++ c.message

end Condition

/-- The class of conditions for statements that are put together at run time. -/
def dynamicSemanticsClass : String := "CX_SY_DYNAMIC_OSQL_SEMANTICS"

/-- Raises conditions of the class for dynamic statements. -/
def dynamicSemantics : ConditionMapper := Condition.ofFault dynamicSemanticsClass

end OpenSql
