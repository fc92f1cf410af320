/-
# OpenSql.Request — the operations of a session as data.

A run of a session is a list of requests, performed one after another on one machine.  The answers
of a run and the machine behind it are all that a later request can see.
-/
import OpenSql.Session

namespace OpenSql

/-- An operation with what it is given. -/
inductive Request where
  | connect
  | disconnect
  | execute (script : Script)
  | select (options : SelectOptions)
  | openCursor (options : SelectOptions)
  | insert (options : InsertOptions)
  | update (options : UpdateOptions)
  | delete (options : DeleteOptions)
  | begin
  | commit
  | rollback
deriving DecidableEq

/-- What an operation gives back. -/
inductive Answer where
  | done
  | rows (rows : List Row)
  | cursor (cursor : Cursor)
  | outcome (outcome : Outcome)

/-- How an operation ends. -/
abbrev Result := Except Stop Answer

namespace Session

/-- Performs a request. -/
def perform (b : Backend H W) : Request → SessionM H W Answer
  | .connect => do connect b; return .done
  | .disconnect => do disconnect b; return .done
  | .execute script => do execute b script; return .done
  | .select options => return .rows (← select b options)
  | .openCursor options => return .cursor (← openCursor b options)
  | .insert options => return .outcome (← insert b options)
  | .update options => return .outcome (← update b options)
  | .delete options => return .outcome (← delete b options)
  | .begin => do begin b; return .done
  | .commit => do commit b; return .done
  | .rollback => do rollback b; return .done

end Session

namespace Machine

/-- A machine whose session has just been made. -/
def start (config : SessionConfig) (mapper : Option ConditionMapper) (world : W) : Machine H W :=
  ⟨{ config, mapper }, world, []⟩

/-- Performs a request. -/
def perform (b : Backend H W) (m : Machine H W) (request : Request) : Result × Machine H W :=
  Session.perform b request m

/-- Performs requests one after another, whatever the results. -/
def performAll (b : Backend H W) (m : Machine H W) : List Request → List Result × Machine H W
  | [] => ([], m)
  | request :: rest =>
    let (result, m) := m.perform b request
    let (results, m) := performAll b m rest
    (result :: results, m)

/-- Ends the session, which gives back the handle it holds. -/
def drop (b : Backend H W) (m : Machine H W) : Except Stop Unit × Machine H W :=
  Session.release b m

end Machine

end OpenSql
