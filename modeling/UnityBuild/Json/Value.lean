import UnityBuild.Json.Number

/-!
# JSON values

A value is a tree of scalars, lists and objects. An object keeps its fields in the order of the
text; when a name repeats, the last field of that name counts.
-/

namespace UnityBuild.Json

/-- A JSON value. -/
inductive Value where
  | null
  | bool (value : Bool)
  | number (value : Number)
  | string (value : String)
  | array (items : List Value)
  | object (fields : List (String × Value))
deriving Inhabited

/-- The last field of a name. -/
def lastField? (name : String) : List (String × Value) → Option Value
  | [] => none
  | (key, value) :: fields =>
    match lastField? name fields with
    | some found => some found
    | none => if key = name then some value else none

end UnityBuild.Json
