/-
ScriptLexer/Text/Record.lean

Descriptions of structured values: a record with named fields, a list, a value
that may be missing.  A description is for the eyes of a developer; the values
it holds are described already.
-/

namespace ScriptLexer

/-! ### Records, lists, options -/

/-- A name, then the fields in braces, each with its description. -/
def describeRecord (name : String) (fields : List (String × String)) : String :=
  name ++ " \x7b " ++ ", ".intercalate (fields.map fun field => field.1 ++ ": " ++ field.2)
    ++ " \x7d"

/-- The descriptions of the members, in brackets. -/
def describeList (members : List String) : String :=
  "[" ++ ", ".intercalate members ++ "]"

/-- The description of a value that may be missing. -/
def describeOption : Option String → String
  | some value => "Some(" ++ value ++ ")"
  | none => "None"

/-- The description of a truth value. -/
def describeBool : Bool → String
  | true => "true"
  | false => "false"

end ScriptLexer
