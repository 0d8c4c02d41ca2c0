import WebviewBridge.Files.Path

/-!
# Paths in the home directory

A path that starts with a tilde stands for one in the home directory.
-/

namespace WebviewBridge

/-- Whether a character separates names, on one system or another. -/
def isSeparator (c : Char) : Bool := c == '/' || c == '\\'

/-- A path with its leading tilde, and the separators that follow, replaced by the home
directory.  Without a home directory every path stays as it is. -/
def expandHome (home : Option String) (path : String) : String :=
  match path.toList, home with
  | '~' :: rest, some h => FilePath.join h (String.ofList (rest.dropWhile isSeparator))
  | _, _ => path

end WebviewBridge
