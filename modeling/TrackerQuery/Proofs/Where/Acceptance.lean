import TrackerQuery.Proofs.Traced
import TrackerQuery.Where.Acceptance

/-!
# TrackerQuery.Proofs.Where.Acceptance

Accepting a where expression **with a log** ends as parsing or compiling it does, and leaves
one warning if a clause is rejected.

The clauses behind a rejected one are not looked at, so that no second clause is warned of.
-/

namespace TrackerQuery.Where

/-! ### How it ends -/

theorem outcome_acceptClause (clause : Text) :
    (acceptClause clause).outcome = (parseClause clause).mapError .rejected := by
  rw [acceptClause, parseClause]
  cases Condition.ofClause? clause <;> rfl

theorem outcome_acceptClauses (ts : List Text) :
    (acceptClauses ts).outcome = (parseClauses ts).mapError .rejected := by
  induction ts with
  | nil => rfl
  | cons t rest ih =>
      rw [acceptClauses, Traced.outcome_bind, outcome_acceptClause, parseClauses]
      cases parseClause t with
      | error r => rfl
      | ok c =>
          show (acceptClauses rest >>= fun cs => pure (c :: cs)).outcome = _
          rw [Traced.outcome_bind, ih]
          cases parseClauses rest <;> rfl

theorem outcome_conditions (t : Text) :
    (conditions t).outcome = (parse t).mapError .rejected := by
  rw [conditions, parse]
  cases Text.isAllBlank t with
  | true => rfl
  | false => exact outcome_acceptClauses (clauses t)

theorem outcome_accept (t : Text) : (accept t).outcome = (compile t).mapError .rejected := by
  rw [accept, Traced.outcome_bind, outcome_conditions, compile]
  cases parse t <;> rfl

theorem outcome_accept_eq_ok {t out : Text} :
    (accept t).outcome = .ok out ↔ compile t = .ok out := by
  rw [outcome_accept, Traced.mapError_eq_ok]

/-! ### Warnings -/

theorem warnsByOutcome_acceptClause (clause : Text) : (acceptClause clause).WarnsByOutcome := by
  rw [acceptClause]
  cases Condition.ofClause? clause with
  | some c => exact Traced.warnsByOutcome_pure c
  | none => exact Traced.warnsByOutcome_warned rfl

theorem warnsByOutcome_acceptClauses (ts : List Text) : (acceptClauses ts).WarnsByOutcome := by
  induction ts with
  | nil => exact Traced.warnsByOutcome_pure []
  | cons t rest ih =>
      exact (warnsByOutcome_acceptClause t).bind fun c =>
        ih.bind fun cs => Traced.warnsByOutcome_pure (c :: cs)

theorem warnsByOutcome_accept (t : Text) : (accept t).WarnsByOutcome := by
  have hconditions : (conditions t).WarnsByOutcome := by
    rw [conditions]
    split
    · exact Traced.warnsByOutcome_fail rfl
    · exact warnsByOutcome_acceptClauses (clauses t)
  exact hconditions.bind fun cs => Traced.warnsByOutcome_pure (render cs)

end TrackerQuery.Where
