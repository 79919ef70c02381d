import TrackerQuery.Builder.Options
import TrackerQuery.Preset.Expansion
import TrackerQuery.Where.Acceptance

/-!
# TrackerQuery.Builder.Call

A **call of a setter** with what a caller supplied, and the setting it amounts to.

A call is *effective* if it yields a setting. It may instead have no effect,
because nothing was given or nothing usable remained, or fail. None of this
depends on the options set so far nor on the sender, so `setting` is a function of
the call alone.
-/

namespace TrackerQuery

/-- A call of one of the setters. -/
inductive Call where
  /-- Set the where expression. -/
  | filter (expression : Datum)
  /-- Set the where expression from a preset. -/
  | preset (name : Text) (bindings : Datum) (today : Day)
  /-- Set the include paths. -/
  | includes (entries : Datum)
  /-- Set the page size. -/
  | take (limit : Datum)
  /-- Set the sort keys. -/
  | orderBy (keys : Datum)
  /-- Set the response format. -/
  | format (name : Option Text)
  deriving Repr

namespace Call

/-- Texts as a display between brackets. -/
def listing (texts : List Text) : Text :=
  (Datum.list (texts.map Datum.text)).inspect

/-- A where expression that a caller supplied. One that does not count as given changes nothing. -/
def filterSetting (expression : Datum) : Traced (Option Setting) :=
  if expression.isGiven then
    match expression.asText? with
    | none => Traced.fail .lacksOperation
    | some t => do
      let compiled ← Where.accept t
      Traced.log .debug .builder ("where: ".toText ++ compiled)
      return some (.filter compiled)
  else do
    Traced.log .debug .builder "where: no clause given, keeping previous value".toText
    return none

/-- Include entries that a caller supplied. If all are blank, nothing changes. -/
def includeSetting (entries : Datum) : Traced (Option Setting) :=
  if entries.isGiven then do
    let texts ← Traced.ofExcept (Include.entries entries)
    let paths ← Include.accept texts
    if paths.isEmpty then return none
    else
      Traced.log .debug .builder ("include: ".toText ++ listing paths)
      return some (.includes paths)
  else return none

/-- A page size that changes nothing, as the log says. -/
def ignoreTake [Limits] (limit : Datum) : Traced (Option Setting) := do
  let shown ← Traced.ofExcept limit.shown
  Traced.log .debug .builder ("take: ignoring ".toText ++ shown)
  return none

/-- A page size that a caller supplied. Only a positive whole number is one. -/
def takeSetting [Limits] (limit : Datum) : Traced (Option Setting) :=
  match limit with
  | .int n => if 0 < n then return some (.take n.toNat) else ignoreTake limit
  | _ => ignoreTake limit

/-- Sort keys that a caller supplied. If all are empty, nothing changes. -/
def orderBySetting [Limits] (keys : Datum) : Traced (Option Setting) :=
  if keys.isGiven then do
    let items ← Traced.ofExcept (SortKey.keys keys)
    let fields ← Traced.ofExcept (SortKey.fields items)
    if fields.isEmpty then return none
    else
      Traced.log .debug .builder ("orderBy: ".toText ++ listing fields)
      return some (.sortKeys fields)
  else return none

/-- The setting that a call amounts to; `none` if it changes nothing. -/
def setting [Limits] : Call → Traced (Option Setting)
  | filter expression => filterSetting expression
  | preset name bindings today => do
    let expression ← Preset.expand name bindings today
    filterSetting (.text expression)
  | includes entries => includeSetting entries
  | take limit => takeSetting limit
  | orderBy keys => orderBySetting keys
  | format name => return some (.format name)

end Call

end TrackerQuery
