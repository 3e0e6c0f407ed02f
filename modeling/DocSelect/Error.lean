/-
# Failures

What can go wrong when a query is built, compiled and run.
-/

namespace DocSelect

/-- A failure of a query. -/
inductive Error where
  /-- An operator, or the shape of its arguments, for which there is no filter. -/
  | unsupportedOperator (detail : String)
  /-- A node that no filter can be made from, by the name of its kind. -/
  | unsupportedNode (kind : String)
  /-- An argument that is refused where it is given. -/
  | invalidArgument (detail : String)
  /-- A failure that the collection reports, passed on untouched. -/
  | execution (source : String)
  /-- A failure to make a result out of a document. -/
  | mapping (detail : String)
  /-- A failure to write or read a text form. -/
  | serialization (source : String)
deriving DecidableEq

namespace Error

/-- The message of a failure. -/
def message : Error → String
  | unsupportedOperator detail => "Unsupported operator: " ++ detail
  | unsupportedNode kind => "Unsupported expression node: " ++ kind
  | invalidArgument detail => "Invalid argument: " ++ detail
  | execution source => "Execution error: " ++ source
  | mapping detail => "Mapping error: " ++ detail
  | serialization source => "Serialization error: " ++ source

/-- The message of the failure behind a failure, where there is one. -/
def source? : Error → Option String
  | execution source => some source
  | serialization source => some source
  | _ => none

end Error

end DocSelect
