import TrackerQuery.Text.Lowercase

/-!
# TrackerQuery.Auth.Scheme

The two **authentication schemes** and the names they go by.

A scheme is written by its canonical name or by one of a few aliases, in any
letter case and with blanks around it. `canonicalName` brings what a caller wrote
into canonical form without judging it, so that a message about an unknown name
can still show what was written.
-/

namespace TrackerQuery

/-- How requests identify their sender. -/
inductive AuthScheme where
  /-- Credentials that the transport carries; nothing of them enters a query. -/
  | basic
  /-- A token that the query carries as a parameter. -/
  | apiKey
  deriving DecidableEq, Repr, Inhabited

namespace AuthScheme

/-- Both schemes, in the order in which messages list them. -/
def all : List AuthScheme := [basic, apiKey]

/-- The canonical name of a scheme. -/
def name : AuthScheme → Text
  | basic => "basic".toText
  | apiKey => "apikey".toText

/-- The name of the scheme as a member of its enumeration. -/
def member : AuthScheme → Text
  | basic => "BASIC".toText
  | apiKey => "API_KEY".toText

/-- The scheme with exactly the given canonical name. -/
def ofName? (t : Text) : Option AuthScheme :=
  all.find? fun s => s.name == t

/-- The aliases and the schemes they stand for. -/
def aliases : List (Text × AuthScheme) :=
  [("api_key".toText, apiKey), ("api-key".toText, apiKey), ("key".toText, apiKey),
   ("token".toText, apiKey), ("access_token".toText, apiKey), ("password".toText, basic),
   ("userpass".toText, basic)]

/-- A name of a scheme brought into canonical form: trimmed, in small letters, an alias replaced
by the name it stands for. A blank name has none. -/
def canonicalName (t : Text) : Option Text :=
  let v := Text.lower (Text.strip t)
  if v.isEmpty then none
  else
    match aliases.lookup v with
    | some s => some s.name
    | none => some v

/-- The scheme that a name or an alias names. -/
def read? (t : Text) : Option AuthScheme :=
  match canonicalName t with
  | some v => ofName? v
  | none => none

end AuthScheme

end TrackerQuery
