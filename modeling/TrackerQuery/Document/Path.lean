import TrackerQuery.Text.Basic

/-!
# TrackerQuery.Document.Path

**Paths** of files in normal form.

A path is its root and its components. Empty components and single dots are
dropped when a path is read; a double dot stays, since what it leads to depends on
the directories. Two slashes in front are a root of their own, any other number of
them is the plain root.
-/

namespace TrackerQuery

/-- The path of a file. -/
structure Path where
  /-- The slashes in front: none, one or two. -/
  root : Text
  /-- The components in order. -/
  parts : List Text
  deriving DecidableEq, Repr

namespace Path

/-- Whether a component counts. -/
def counts (part : Text) : Bool :=
  !part.isEmpty && part != [.char '.']

/-- The path that a text names. -/
def ofText (t : Text) : Path :=
  let slashes := t.takeWhile (· == .char '/')
  let root := if slashes.length = 2 then slashes else slashes.take 1
  ⟨root, (Text.pieces '/' t).filter counts⟩

/-- The text of a path; a dot for the path of no components. -/
def toText (p : Path) : Text :=
  let t := p.root ++ Text.join ['/'] p.parts
  if t.isEmpty then ['.'] else t

/-- The last component; empty if there is none. -/
def name (p : Path) : Text :=
  p.parts.getLast?.getD []

/-- The end of the last component from its last dot on. A dot at either end of the component
starts no suffix. -/
def suffix (p : Path) : Text :=
  let reversed := p.name.reverse
  let behind := reversed.takeWhile (· != .char '.')
  match reversed.dropWhile (· != .char '.') with
  | [] => []
  | _ :: front => if behind.isEmpty || front.isEmpty then [] else '.' :: behind.reverse

end Path

end TrackerQuery
