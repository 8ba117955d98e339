/-!
# Faults of editing

A document that is oddly typed where an edit looks at it is refused.
-/

namespace SlideContract.Edit

/-- Why a document cannot be edited. -/
inductive Fault where
  /-- A list or an object stands among the required names. -/
  | compoundRequired
  /-- The properties are something other than an object, and not empty. -/
  | oddProperties
  /-- The document is no object. -/
  | notObject
  /-- The name of a field is no string. -/
  | fieldName
  /-- The schema of a field is no object. -/
  | fieldSchema
  deriving DecidableEq, Repr

/-- The message of a fault, if it has one. -/
def Fault.message? : Fault → Option String
  | .fieldName => some "Field name must be a string"
  | .fieldSchema => some "Field schema must be a dictionary"
  | _ => none

end SlideContract.Edit
