import TrackerQuery.Fault.Basic
import TrackerQuery.Log

/-!
# TrackerQuery.Traced

Computations that **log and may fail**.

The records are kept also when the computation fails, so the two are side by
side: first what was logged, in order, then the outcome. A failure skips what
follows it, and its records stay.
-/

namespace TrackerQuery

/-- The records that a computation left and how it ended. -/
structure Traced (α : Type) where
  /-- Records in order. -/
  records : List LogRecord
  /-- The result, or why there is none. -/
  outcome : Except Fault α

namespace Traced

variable {α β : Type}

/-- A result without records. -/
def ok (a : α) : Traced α :=
  ⟨[], .ok a⟩

/-- A failure without records. -/
def fail (f : Fault) : Traced α :=
  ⟨[], .error f⟩

/-- One computation after another; the second is skipped if the first fails. -/
def andThen (x : Traced α) (f : α → Traced β) : Traced β :=
  match x.outcome with
  | .ok a => ⟨x.records ++ (f a).records, (f a).outcome⟩
  | .error e => ⟨x.records, .error e⟩

instance : Monad Traced where
  pure := ok
  bind := andThen

/-- A single record. -/
def log (level : Level) (channel : Channel) (message : Text) : Traced Unit :=
  ⟨[⟨level, channel, message⟩], .ok ()⟩

/-- A computation that does not log. -/
def ofExcept : Except Fault α → Traced α
  | .ok a => ok a
  | .error f => fail f

/-- A check of query options that does not log. -/
def ofChecked : Except Rejection α → Traced α
  | .ok a => ok a
  | .error r => fail (.rejected r)

end Traced

end TrackerQuery
