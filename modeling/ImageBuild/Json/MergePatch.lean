import ImageBuild.Json.Basic

/-! Changing a value by a patch: members are merged, null removes one, anything else replaces. -/

namespace ImageBuild.Json

/-- The members of an object, of which any other value has none. -/
def membersOf : Json → List (String × Json)
  | .object members => members
  | _ => []

/-- The value under a name, null if there is none. -/
def under (name : String) (members : List (String × Json)) : Json :=
  ((members.find? (fun m => m.1 = name)).map (·.2)).getD .null

mutual

/-- A value changed by a patch. -/
def patched (target : Json) : Json → Json
  | .object changes => .object (patchedMembers (membersOf target) changes)
  | patch => patch

/-- Members changed one after the other. -/
def patchedMembers (members : List (String × Json)) : List (String × Json) → List (String × Json)
  | [] => members
  | (name, .null) :: rest => patchedMembers (members.filter (fun m => m.1 ≠ name)) rest
  | (name, change) :: rest =>
    -- A member that is not there is merged into like null, and comes last.
    let value := patched (under name members) change
    patchedMembers (members.filter (fun m => m.1 ≠ name) ++ [(name, value)]) rest

end

end ImageBuild.Json
