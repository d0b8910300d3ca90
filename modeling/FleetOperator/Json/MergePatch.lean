import FleetOperator.Json.Value

/-!
# Merge patches

Changing a JSON value by a JSON value: the fields of a patch replace those of an object, null
removes a field, and objects are patched field by field. A patch that is no object replaces the
whole value.
-/

namespace FleetOperator.Json

/-- Fields without those of a key. -/
def removeField (key : String) (fields : List (String × Json)) : List (String × Json) :=
  fields.filter fun field ↦ field.1 != key

/-- The fields of an object, none for any other value. -/
def fieldsOf (value : Json) : List (String × Json) := value.asObject?.getD []

mutual

/-- A value changed by a patch. -/
def mergePatch (target : Json) : Json → Json
  | object changes => object (mergeFields (fieldsOf target) changes)
  | patch => patch

/-- Fields changed by the fields of a patch. -/
def mergeFields (fields : List (String × Json)) : List (String × Json) → List (String × Json)
  | [] => fields
  | (key, change) :: rest =>
    mergeFields
      (match change with
        | null => removeField key fields
        | _ => insertField key (mergePatch ((lookup key fields).getD null) change) fields)
      rest

end

end FleetOperator.Json
