import ChatClient.Text.Blank

/-!
Paths of files, as text with slashes between names. One dot stands for the directory itself and two
for the one above; they are resolved in a tree and not in the text.
-/
namespace ChatClient.Files

/-- The parts between slashes; the first one is empty if the path starts at the root. -/
def parts (path : String) : List String :=
  (Text.cutAll '/' path.toList).map String.ofList

/-- A part that stays in the same directory. -/
def staysHere (part : String) : Bool :=
  part = "" || part = "."

def isAbsolute (path : String) : Bool :=
  (parts path).head? = some "" && path ≠ ""

/-- The names that lead from the start of a path to its end. -/
def names (path : String) : List String :=
  (parts path).filter (!staysHere ·)

/-- A path whose last part is no name can only be a directory. -/
def namesDirectory (path : String) : Bool :=
  match (parts path).getLast? with
  | some part => staysHere part || part = ".."
  | none => true

/-- The path without the parts at its end that stay in the same directory, last part first. -/
private def significantParts (reversed : List String) : List String :=
  reversed.dropWhile staysHere

/-- The directory in which the path lies. Neither the root nor the empty path lies in one. -/
def parent? (path : String) : Option String :=
  match significantParts (parts path).reverse with
  | [] => none
  | _ :: above =>
    match significantParts above with
    | [] => some (if isAbsolute path then "/" else "")
    | above => some (String.intercalate "/" above.reverse)

/-- A path below a directory; an absolute path stays as it is. -/
def below (directory path : String) : String :=
  if isAbsolute path then path
  else if directory = "" then path
  else if directory.endsWith "/" then directory ++ path
  else directory ++ "/" ++ path

end ChatClient.Files
