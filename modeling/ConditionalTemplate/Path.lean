/-!
# Paths

A path is a text of components with `/` between them, absolute if it begins with one.
-/

namespace ConditionalTemplate.Path

def isAbsolute (path : String) : Bool :=
  path.toList.head? == some '/'

/-- The name seen from the base. An absolute name stands for itself, and nothing is tidied up. -/
def join (base name : String) : String :=
  if isAbsolute name || base.isEmpty then name
  else if base.toList.getLast? = some '/' then base ++ name
  else base ++ "/" ++ name

/-- The components of a path; those around a `/` at an end or next to another one are empty. -/
def components (path : String) : List String :=
  (path.toList.splitOn '/').map String.ofList

end ConditionalTemplate.Path
