import TrackerQuery.Auth.Scheme
import TrackerQuery.Text.Printable

/-!
# TrackerQuery.Auth.Descriptor

**Who sends a query**: the scheme, and the token if the scheme has one.

The display of a descriptor leaves the token out, so a log or a message that
shows a descriptor gives no token away.
-/

namespace TrackerQuery

/-- A scheme with its token. -/
structure Auth where
  /-- The scheme. -/
  scheme : AuthScheme
  /-- The token; empty if there is none. -/
  token : Text
  deriving DecidableEq, Repr, Inhabited

namespace Auth

/-- Credentials that the transport carries. -/
def basic : Auth := ⟨.basic, []⟩

/-- Whether the token is sent as a parameter. -/
def isApiKey (a : Auth) : Bool :=
  a.scheme == .apiKey

/-- The display of a descriptor, without its token. -/
def inspect (a : Auth) : Text :=
  "AuthDescriptor(scheme=<AuthScheme.".toText ++ a.scheme.member ++ ": ".toText ++
    Text.inspect a.scheme.name ++ ">)".toText

end Auth

end TrackerQuery
