import ImageBuild.Dict

/-! Choices of objects by their labels, as text. -/

namespace ImageBuild

/-- The labels that objects must have, as text. -/
def labelSelector (labels : Dict String String) : String :=
  ",".intercalate (labels.entries.map (fun label => label.1 ++ "=" ++ label.2))

end ImageBuild
