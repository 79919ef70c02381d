import TrackerQuery.Fault.Rejection
import TrackerQuery.Where.Clause
import TrackerQuery.Where.Condition

/-!
# TrackerQuery.Where.Expression

A whole **where expression**: its conditions, and its compiled text.

The conditions of an expression are those of its clauses in order, and the first
clause that is no condition rejects the whole. An expression of blanks is rejected
as empty before it is cut.
-/

namespace TrackerQuery.Where

/-- The condition that a clause is. -/
def parseClause (clause : Text) : Except Rejection Condition :=
  match Condition.ofClause? clause with
  | some c => .ok c
  | none => .error (.badCondition clause)

/-- The conditions of clauses in order; the first clause that is none decides. -/
def parseClauses : List Text → Except Rejection (List Condition)
  | [] => .ok []
  | clause :: rest =>
    match parseClause clause with
    | .error r => .error r
    | .ok c =>
      match parseClauses rest with
      | .error r => .error r
      | .ok cs => .ok (c :: cs)

/-- The conditions of a where expression. -/
def parse (expression : Text) : Except Rejection (List Condition) :=
  if Text.isAllBlank expression then .error .emptyWhere
  else parseClauses (clauses expression)

/-- Conditions as compiled text. -/
def render (conditions : List Condition) : Text :=
  Text.join " and ".toText (conditions.map Condition.render)

/-- A where expression as compiled text. -/
def compile (expression : Text) : Except Rejection Text :=
  match parse expression with
  | .ok conditions => .ok (render conditions)
  | .error r => .error r

end TrackerQuery.Where
