import TrackerQuery.Document.Json

/-!
# TrackerQuery.Proofs.Document.Fault

What the **reader of documents** fails for.

`FailsOnly P x` says that `x` succeeds, or fails for a reason of which `P` holds. A text
that is no JSON is reported with its flaw. The reader also meets numerals that are too
long and collections that are nested too deeply (`Json.failsOnly_read`).
-/

namespace TrackerQuery

/-! ### Reasons to fail for -/

/-- Holds of a computation that fails for no other reason than those with a property. -/
def FailsOnly {ε α : Type} (P : ε → Prop) (x : Except ε α) : Prop :=
  ∀ e, x = .error e → P e

namespace FailsOnly

variable {ε α : Type} {P : ε → Prop}

theorem ok (a : α) : FailsOnly P (.ok a : Except ε α) := nofun

theorem error {e : ε} (h : P e) : FailsOnly P (.error e : Except ε α) := by
  intro e' he
  cases he
  exact h

theorem ite {c : Prop} [Decidable c] {x y : Except ε α} (hx : FailsOnly P x)
    (hy : FailsOnly P y) : FailsOnly P (if c then x else y) := by
  split
  · exact hx
  · exact hy

theorem map {β : Type} {x : Except ε α} (hx : FailsOnly P x) (g : α → β) :
    FailsOnly P (x.map g) := by
  intro e he
  cases x with
  | ok a => cases he
  | error e' =>
      obtain rfl : e' = e := Except.error.inj he
      exact hx e' rfl

end FailsOnly

end TrackerQuery
