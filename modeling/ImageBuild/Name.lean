import ImageBuild.Text.Lowercase
import ImageBuild.Text.Split

/-! Names of builds, and the names of cluster objects that are made of them. -/

namespace ImageBuild.Name

/-- The greatest length of a name, which is also a label value. -/
def maxLength : Nat := 63

/-- Whether a character is a letter or a digit of ASCII. -/
def isAlphanumeric (c : Char) : Bool := c.isAlpha || c.isDigit

/-- Whether a part of a name holds letters, digits and dashes, and no dash at its ends. -/
def isSegment (part : List Char) : Bool :=
  match part.head?, part.getLast? with
  | some first, some last =>
    isAlphanumeric first && isAlphanumeric last && part.all (fun c => isAlphanumeric c || c = '-')
  | _, _ => false

/-- Whether a build may have the name: parts between points, and few bytes in all. -/
def isValid (name : String) : Bool :=
  !name.isEmpty && name.utf8ByteSize ≤ maxLength
    && (Text.splitAll '.' name.toList).all isSegment

/-- The name of the worker pod of a build. -/
def workerPod (stem name : String) : String := stem ++ "-" ++ Text.lower name ++ "-builder"

/-- The name of the ConfigMap that holds the context of a build. -/
def contextMap (stem name : String) : String := stem ++ "-" ++ Text.lower name ++ "-context"

end ImageBuild.Name
