import TrackerQuery.Builder.Session
import TrackerQuery.Literal.Classify
import TrackerQuery.Main
import TrackerQuery.Proofs.Preset.Shape
import TrackerQuery.Proofs.Where.Embedding
import TrackerQuery.Proofs.Where.Injection
import TrackerQuery.Request.Basic
import TrackerQuery.Proofs.FormEncoding
import TrackerQuery.Proofs.Include
import TrackerQuery.Proofs.SortKey
import TrackerQuery.Proofs.Where.Composition
import TrackerQuery.Proofs.Builder.Setting
import TrackerQuery.Proofs.Builder.Params
import TrackerQuery.Proofs.Builder.Run
import TrackerQuery.Proofs.Builder.Reachable
import TrackerQuery.Proofs.Builder.History
import TrackerQuery.Proofs.Literal.Meaning
import TrackerQuery.Proofs.Auth.Secrecy
import TrackerQuery.Proofs.Calendar.Iso
import TrackerQuery.Proofs.Preset.Expansion
import TrackerQuery.Proofs.Builder.Outcome
import TrackerQuery.Proofs.CommandLine.Reporting
import TrackerQuery.Proofs.Request.Search
import TrackerQuery.Proofs.Request.Compilation
import TrackerQuery.Proofs.Where.Position
import TrackerQuery.Proofs.Where.Grammar
import TrackerQuery.Proofs.Literal.Projection
import TrackerQuery.Proofs.Preset.Substitution
import TrackerQuery.Proofs.Preset.Quoted
import TrackerQuery.Proofs.Preset.DateVariables
import TrackerQuery.Proofs.Calendar.Moment
import TrackerQuery.Proofs.Literal.Date
import TrackerQuery.Proofs.Literal.BuiltDate
import TrackerQuery.Proofs.Literal.Array
import TrackerQuery.Proofs.SortKey.Direction
import TrackerQuery.Proofs.Auth.Resolution
import TrackerQuery.Proofs.Where.Atomic
import TrackerQuery.Proofs.Builder.Warning
import TrackerQuery.Proofs.Where.MatchOrder
