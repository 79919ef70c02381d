import TrackerQuery.Proofs.Where.Expression

/-!
# TrackerQuery.Proofs.Where.Composition

**Compiling is compositional** at the word *and*.

Where no quote is open behind `a`, the clauses of `a`, *and* and `b` are those of `a`
and those of `b`. Clauses are judged in order and each by itself, so the second part
is looked at only if the first is accepted (`parseClauses_append_eq`), and a rejection
names the first clause of both that is no condition (`parseClauses_eq_error`). Compiled
text is put together in the same way (`render_append`).

Main statement: `compile_append`.
-/

namespace TrackerQuery.Where

open Condition (ofClause?)

/-! ### The clause that decides -/

/-- The first of some clauses that is no condition. -/
def firstBad? (ts : List Text) : Option Text :=
  ts.find? fun t => (ofClause? t).isNone

theorem firstBad?_of_none {t : Text} (h : ofClause? t = none) (ts : List Text) :
    firstBad? (t :: ts) = some t :=
  List.find?_cons_of_pos (by simp [h])

theorem firstBad?_of_some {t : Text} {c : Condition} (h : ofClause? t = some c) (ts : List Text) :
    firstBad? (t :: ts) = firstBad? ts :=
  List.find?_cons_of_neg (by simp [h])

theorem parseClause_eq_error {t : Text} {r : Rejection} :
    parseClause t = .error r ↔ ofClause? t = none ∧ r = .badCondition t := by
  rw [parseClause]
  split
  · next h => simp [h]
  · next h => simp [h, eq_comm]

/-- A rejection names the first clause that is no condition. -/
theorem parseClauses_eq_error {ts : List Text} {r : Rejection} :
    parseClauses ts = .error r ↔ ∃ t, firstBad? ts = some t ∧ r = .badCondition t := by
  induction ts with
  | nil => simp [parseClauses, firstBad?]
  | cons t ts ih =>
      rw [parseClauses]
      cases hc : parseClause t with
      | error r' =>
          obtain ⟨hbad, rfl⟩ := parseClause_eq_error.mp hc
          simp [firstBad?_of_none hbad, eq_comm]
      | ok c =>
          -- a good clause leaves the decision to the clauses behind it
          rw [firstBad?_of_some (parseClause_eq_ok.mp hc), ← ih]
          cases parseClauses ts <;> simp

/-- Of two lists of clauses the second is looked at if the first is accepted. -/
theorem parseClauses_append_eq (ts us : List Text) :
    parseClauses (ts ++ us) = (do
      let cs ← parseClauses ts
      let ds ← parseClauses us
      return cs ++ ds) := by
  induction ts with
  | nil => cases h : parseClauses us <;>
      simp [h, parseClauses, bind, Except.bind, pure, Except.pure]
  | cons t ts ih =>
      rw [List.cons_append, parseClauses, parseClauses, ih]
      cases parseClause t with
      | error r => rfl
      | ok c =>
          cases parseClauses ts with
          | error r => rfl
          | ok cs => cases parseClauses us <;> rfl

/-! ### Joining -/

theorem render_append {cs ds : List Condition} (hcs : cs ≠ []) (hds : ds ≠ []) :
    render (cs ++ ds) = render cs ++ " and ".toText ++ render ds := by
  induction cs with
  | nil => exact absurd rfl hcs
  | cons c cs ih =>
      cases cs with
      | nil => rw [List.singleton_append, render_cons hds, render_singleton]
      | cons d cs =>
          rw [List.cons_append, render_cons (List.append_ne_nil_of_right_ne_nil _ hds),
            ih (List.cons_ne_nil d cs), render_cons (List.cons_ne_nil d cs)]
          simp only [List.append_assoc]

theorem parse_eq_parseClauses {w : Text} (h : Text.isAllBlank w = false) :
    parse w = parseClauses (clauses w) := by
  rw [parse, if_neg (by simp [h])]

/-- What compiles has the compiled text of its conditions, and the same rejections. -/
theorem compile_eq_bind (w : Text) : compile w = (do return render (← parse w)) := by
  rw [compile]
  cases parse w <;> rfl

/-- An expression is rejected as empty if it is blank, and else for a clause. -/
theorem compile_eq_error {w : Text} {r : Rejection} :
    compile w = .error r ↔ (Text.isAllBlank w = true ∧ r = .emptyWhere) ∨
      (Text.isAllBlank w = false ∧ ∃ t, firstBad? (clauses w) = some t ∧ r = .badCondition t) := by
  rw [← parseClauses_eq_error, compile, parse]
  cases Text.isAllBlank w with
  | true => simp [eq_comm]
  | false => cases parseClauses (clauses w) <;> simp

/-! ### Main statement -/

/-- **Composition.** Let `a` leave no quote open and `b` not go on with another *and*. Then `a`,
*and* and `b` have the clauses of `a` and of `b`, compile to the two compiled texts with *and*
between them, and are rejected if `a` is or else `b` is, for the first of all clauses that is no
condition. -/
theorem compile_append {a b : Text} (hda : Text.isAllBlank a = false)
    (hdb : Text.isAllBlank b = false) (ha : (Scan.start.after a).opened = none)
    (hb : startsWithAnd (' ' :: b) = false) :
    let w := a ++ " and ".toText ++ b
    clauses w = clauses a ++ clauses b ∧
      parse w = (do
        let cs ← parse a
        let ds ← parse b
        return cs ++ ds) ∧
      compile w = (do
        let x ← compile a
        let y ← compile b
        return x ++ " and ".toText ++ y) ∧
      ∀ r, compile w = .error r ↔
        ∃ t, firstBad? (clauses a ++ clauses b) = some t ∧ r = .badCondition t := by
  intro w
  have hdw : Text.isAllBlank w = false := by
    rw [show w = a ++ (" and ".toText ++ b) from List.append_assoc ..]
    exact Text.isAllBlank_append hda _
  have hclauses : clauses w = clauses a ++ clauses b := by
    rw [show w = a ++ (" and ".toText ++ b) from List.append_assoc ..]
    exact clauses_append ha hb
  have hparse : parse w = (do
      let cs ← parse a
      let ds ← parse b
      return cs ++ ds) := by
    rw [parse_eq_parseClauses hdw, parse_eq_parseClauses hda, parse_eq_parseClauses hdb, hclauses,
      parseClauses_append_eq]
  refine ⟨hclauses, hparse, ?_, fun r => ?_⟩
  · rw [compile_eq_bind, compile_eq_bind, compile_eq_bind, hparse]
    cases hcs : parse a with
    | error r => rfl
    | ok cs =>
        cases hds : parse b with
        | error r => rfl
        | ok ds => exact
            congrArg Except.ok (render_append (ne_nil_of_parse hcs) (ne_nil_of_parse hds))
  · rw [← hclauses, ← parseClauses_eq_error, ← parse_eq_parseClauses hdw, compile]
    cases parse w <;> simp

/-- Both parts have the word in a value, and the first one starts with it. -/
theorem compile_append_quoted :
    let a := "and ne 'rock and roll'".toText
    let b := "'and' is null".toText
    let w := a ++ " and ".toText ++ b
    Text.isAllBlank a = false ∧ Text.isAllBlank b = false ∧
      (Scan.start.after a).opened = none ∧ startsWithAnd (' ' :: b) = false ∧
      clauses w = clauses a ++ clauses b ∧
      parse w = (do
        let cs ← parse a
        let ds ← parse b
        return cs ++ ds) ∧
      compile w = (do
        let x ← compile a
        let y ← compile b
        return x ++ " and ".toText ++ y) ∧
      ∀ r, compile w = .error r ↔
        ∃ t, firstBad? (clauses a ++ clauses b) = some t ∧ r = .badCondition t := by
  intro a b w
  have hda : Text.isAllBlank a = false := by decide
  have hdb : Text.isAllBlank b = false := by decide
  have ha : (Scan.start.after a).opened = none := by decide
  have hb : startsWithAnd (' ' :: b) = false := by decide
  exact ⟨hda, hdb, ha, hb, compile_append hda hdb ha hb⟩

end TrackerQuery.Where
