import TrackerQuery.Builder.Basic

/-!
# TrackerQuery.Builder.Session

A **session**: a growing family of builders, and steps that address one of them.

A session starts with one builder. A step acts on the current builder; cloning
adds a builder to the family and makes it the current one, and `use` makes any
builder of the family current. A step that fails leaves the family as it was, and
the steps behind it still run.
-/

namespace TrackerQuery

open FormEncoding (Param)

/-- A step of a session. -/
inductive Step where
  /-- Call a setter of the current builder. -/
  | call (c : Call)
  /-- Set the options of the current builder back to their defaults. -/
  | reset
  /-- Ask for the parameters. -/
  | params
  /-- Ask for the query string. -/
  | query
  /-- Clone the current builder and go on with the clone. -/
  | clone
  /-- Go on with a builder of the family. -/
  | use (index : Nat)
  deriving Repr

/-- What a step was asked for. -/
inductive Answer where
  /-- The step asks for nothing. -/
  | done
  /-- The parameters. -/
  | params (ps : List Param)
  /-- The query string. -/
  | query (t : Text)
  deriving DecidableEq, Repr

/-- A family of builders, and which one is current. -/
structure Session where
  /-- The builders in the order of their creation. -/
  builders : List Builder
  /-- The place of the current builder. -/
  current : Nat
  deriving DecidableEq, Repr

namespace Session

/-- A session with one builder. -/
def start (auth : Auth) : Session :=
  ⟨[Builder.new auth], 0⟩

/-- The current builder. -/
def builder (s : Session) : Builder :=
  s.builders[s.current]?.getD default

/-- The session with the current builder replaced. -/
def put (s : Session) (b : Builder) : Session :=
  { s with builders := s.builders.set s.current b }

/-- The session after a step, with what the step was asked for. A step to a builder that is not in
the family stays where it is. -/
def step [Limits] (s : Session) : Step → Traced (Session × Answer)
  | .call c => do
    let b ← s.builder.call c
    return (s.put b, .done)
  | .reset => return (s.put s.builder.reset, .done)
  | .params => do
    let ps ← Traced.ofExcept s.builder.params
    return (s, .params ps)
  | .query => do
    let t ← Traced.ofExcept s.builder.queryString
    return (s, .query t)
  | .clone => return (⟨s.builders ++ [s.builder.clone], s.builders.length⟩, .done)
  | .use i => return (if i < s.builders.length then { s with current := i } else s, .done)

/-- What one step of a run left: the session behind it, and what it answered or why it failed. -/
structure Outcome where
  /-- The session behind the step. -/
  session : Session
  /-- The answer or the failure. -/
  answer : Except Fault Answer

/-- The session behind a step and the outcome of the step; a failing step changes nothing. -/
def outcome (s : Session) (t : Traced (Session × Answer)) : Outcome :=
  match t.outcome with
  | .ok (s', a) => ⟨s', .ok a⟩
  | .error f => ⟨s, .error f⟩

/-- The outcomes of steps in order, and every record they left. -/
def run [Limits] (s : Session) : List Step → List LogRecord × List Outcome
  | [] => ([], [])
  | st :: rest =>
    let t := s.step st
    let o := s.outcome t
    let (records, outcomes) := run o.session rest
    (t.records ++ records, o :: outcomes)

end Session

end TrackerQuery
