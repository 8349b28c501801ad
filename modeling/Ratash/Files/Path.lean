import Mathlib.Data.List.Basic

namespace Unix

inductive Component where
  | rootDir
  | curDir
  | parentDir
  | normal (name : String)
deriving DecidableEq

def isAbsolute (path : String) : Bool :=
  path.toList.head? = some '/'

/-- The component a part between two separators stands for. -/
def componentOf (part : List Char) : Option Component :=
  if part = [] ∨ part = ['.'] then none
  else if part = ['.', '.'] then some .parentDir
  else some (.normal (.ofList part))

def components (path : String) : List Component :=
  let parts := path.toList.splitOn '/'
  let leading := if isAbsolute path then [Component.rootDir]
    else if parts.head? = some ['.'] then [.curDir] else []
  leading ++ parts.filterMap componentOf

def normalNames (path : String) : Option (List String) :=
  (components path).mapM fun
    | .normal name => some name
    | _ => none

end Unix
