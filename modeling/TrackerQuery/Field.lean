import TrackerQuery.Text.Basic

/-!
# TrackerQuery.Field

**Field references** in canonical form.

A reference has no blanks, and the long spelling of a custom field is replaced by
its alias. Dotted paths are left alone. Blanks go first, since removing them can
bring the long spelling about.
-/

namespace TrackerQuery.Field

/-- The long spelling that starts a reference to a custom field. -/
def customField : Text := "CustomField.".toText

/-- The alias that takes its place. -/
def customAlias : Text := "cf_".toText

/-- The canonical form of a field reference. -/
def sanitize (field : Text) : Text :=
  let compact := Text.compact field
  match Text.after? customField compact with
  | some name => customAlias ++ name
  | none => compact

end TrackerQuery.Field
