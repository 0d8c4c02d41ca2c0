/-!
# Paths

A path is a text of names between slashes.
-/

namespace WebviewBridge.FilePath

/-- Whether a path starts at the root. -/
def isAbsolute (path : String) : Bool := path.toList.head? == some '/'

/-- A path below a directory.  An absolute path stays as it is. -/
def join (dir path : String) : String :=
  if isAbsolute path then path
  else if dir.isEmpty || dir.toList.getLast? == some '/' then dir ++ path
  else dir ++ "/" ++ path

/-- The names of a text between slashes; an empty name stands between two slashes. -/
def splitNames : List Char → List (List Char)
  | [] => [[]]
  | c :: cs =>
    match splitNames cs with
    | [] => [[c]]
    | n :: ns => if c = '/' then [] :: n :: ns else (c :: n) :: ns

/-- The names of a path in order, without the empty ones. -/
def names (path : String) : List String :=
  ((splitNames path.toList).filter (!·.isEmpty)).map String.ofList

/-- Names without the single dots at their front; such a dot leads nowhere else. -/
def dropDots (ns : List String) : List String := ns.dropWhile (· == ".")

/-- The names of the directory that holds what the names lead to.  Single dots at the end of either
are no names. -/
def dropLastName (ns : List String) : List String :=
  (dropDots (dropDots ns.reverse).tail).reverse

/-- Whether a path ends in a slash, so that it can only lead to a directory. -/
def endsInSlash (path : String) : Bool := path.toList.getLast? == some '/'

/-- Whether the last name of a path is made of dots that lead to a directory by another name. -/
def endsInDots (path : String) : Bool :=
  (names path).getLast?.any fun n => n == "." || n == ".."

/-- A path without the slashes and the single dots at its end; given and answered back to front. -/
def trimEnd : List Char → List Char
  | ['/'] => ['/']
  | '/' :: rest => trimEnd rest
  | '.' :: '/' :: rest => trimEnd ('/' :: rest)
  | cs => cs
termination_by cs => cs.length

/-- The text of a directory as the parent of what lies in it: without the slashes and the single
dots at its end. -/
def asParent (dir : String) : String := String.ofList (trimEnd dir.toList.reverse).reverse

end WebviewBridge.FilePath
