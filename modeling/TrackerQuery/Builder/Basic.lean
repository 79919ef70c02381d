import TrackerQuery.Builder.Call

/-!
# TrackerQuery.Builder.Basic

The **query builder**: a sender and the options set so far.

A setter validates what it is given before it changes anything, so a failing call
leaves the builder as it was. A clone shares the sender and starts from default
options.
-/

namespace TrackerQuery

open FormEncoding (Param)

/-- A query being built. -/
structure Builder where
  /-- Who will send the query. -/
  auth : Auth
  /-- The options set so far. -/
  options : Options
  deriving DecidableEq, Repr, Inhabited

namespace Builder

/-- A builder with default options. -/
def new (auth : Auth) : Builder :=
  ⟨auth, {}⟩

/-- The builder after the setting that a call amounted to. -/
def apply (b : Builder) : Option Setting → Builder
  | some s => { b with options := b.options.set s }
  | none => b

/-- The builder after a call. -/
def call [Limits] (b : Builder) (c : Call) : Traced Builder := do
  let s ← c.setting
  return b.apply s

/-- The builder after calls in order; the first that fails decides. -/
def callAll [Limits] (b : Builder) : List Call → Traced Builder
  | [] => return b
  | c :: rest => do
    let b' ← b.call c
    b'.callAll rest

/-- The builder with default options. -/
def reset (b : Builder) : Builder :=
  new b.auth

/-- A new builder for another query of the same sender. -/
def clone (b : Builder) : Builder :=
  new b.auth

/-- The parameters of the query, in order. -/
def params [Limits] (b : Builder) : Except Fault (List Param) :=
  b.options.params b.auth

/-- The query string. -/
def queryString [Limits] (b : Builder) : Except Fault Text :=
  b.params.bind FormEncoding.encode

end Builder

end TrackerQuery
