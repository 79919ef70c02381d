import TrackerQuery.Traced
import TrackerQuery.Where.Expression

/-!
# TrackerQuery.Where.Acceptance

Where expressions **with a log**.

A clause that has the form of no condition is warned of before it rejects the whole
expression. That an expression is blank is rejected without a record.
-/

namespace TrackerQuery.Where

/-- The condition that a clause is, with a warning if it is none. -/
def acceptClause (clause : Text) : Traced Condition :=
  match Condition.ofClause? clause with
  | some c => return c
  | none => do
    Traced.log .warning .conditions ("Rejected where condition: ".toText ++ Text.inspect clause)
    Traced.fail (.rejected (.badCondition clause))

/-- The conditions of clauses in order; behind the first clause that is none, no other is looked
at. -/
def acceptClauses : List Text → Traced (List Condition)
  | [] => return []
  | clause :: rest => do
    let c ← acceptClause clause
    let cs ← acceptClauses rest
    return c :: cs

/-- The conditions of a where expression. -/
def conditions (expression : Text) : Traced (List Condition) :=
  if Text.isAllBlank expression then Traced.fail (.rejected .emptyWhere)
  else acceptClauses (clauses expression)

/-- A where expression as compiled text. -/
def accept (expression : Text) : Traced Text := do
  let cs ← conditions expression
  return render cs

end TrackerQuery.Where
