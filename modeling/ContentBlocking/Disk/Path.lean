import ContentBlocking.Text.Blank

/-!
# Paths

A path is a text whose parts are separated by slashes.  The functions here only look at the text.
-/

namespace ContentBlocking.Path

/-- A part of a path that names an entry of a directory. -/
def isName (part : List Char) : Bool :=
  part ≠ [] && part ≠ ['.'] && part ≠ ['.', '.']

/-- The parts of a path between its slashes. -/
def parts (path : String) : List (List Char) := Text.splitOn '/' path.toList

/-- A path below another one; a path from the root stands for itself. -/
def join (base path : String) : String :=
  if path.startsWith "/" || base.isEmpty then path
  else if base.endsWith "/" then base ++ path
  else base ++ "/" ++ path

/-- A file name without and with its extension: what follows its last dot, unless that is also its
first character. -/
def splitName (name : List Char) : List Char × Option (List Char) :=
  let back := name.reverse.takeWhile (· != '.')
  match name.reverse.dropWhile (· != '.') with
  | _ :: stem => if stem = [] then (name, none) else (stem.reverse, some back.reverse)
  | [] => (name, none)

/-- The extension of a file name. -/
def extension? (name : String) : Option String :=
  (splitName name.toList).2.map String.ofList

/-- A file name without its extension. -/
def stem (name : String) : String := String.ofList (splitName name.toList).1

/-- A reversed path without the slashes and single dots at its end. -/
def dropTrailing (back : List Char) : Nat → List Char
  | 0 => back
  | fuel + 1 =>
    match back with
    | '/' :: rest => if rest = [] then back else dropTrailing rest fuel
    | '.' :: '/' :: rest => dropTrailing ('/' :: rest) fuel
    | _ => back

/-- A path without the slashes and single dots at its end; the root and a single dot alone stay. -/
def trimEnd (path : List Char) : List Char := (dropTrailing path.reverse path.length).reverse

/-- A path cut before its last part that is not empty and no single dot, which ends there. -/
def splitLast (path : List Char) : List Char × List Char :=
  let back := (trimEnd path).reverse
  ((back.dropWhile (· != '/')).reverse, (back.takeWhile (· != '/')).reverse)

/-- A path with the extension of its last part replaced.  A last part that is a dot before its
extension is left as the parent of its directory, since the dots alone have no extension. -/
def withExtension (path extension : String) : String :=
  let (front, name) := splitLast path.toList
  let (stem, replaced) := splitName name
  if !isName name then path
  else if stem = ['.'] ∧ replaced.isSome ∧ front ++ name = path.toList then
    String.ofList (front ++ ['.', '.'])
  else String.ofList (front ++ stem ++ '.' :: extension.toList)

/-- The path of the directory that holds the entry at a path; none for the root and the empty
path. -/
def parent? (path : String) : Option String :=
  let (front, name) := splitLast path.toList
  if name = [] then none else some (String.ofList (trimEnd front))

/-- A path that names a directory without the slashes at its end. -/
def withoutSlashes (path : String) : String :=
  match Text.dropRightWhile (· == '/') path.toList with
  | [] => path
  | cs => String.ofList cs

/-- The parts of a relative path from the first one that leads elsewhere. -/
def dropStays : List Char → List Char
  | '.' :: '/' :: rest => dropStays rest
  | '/' :: rest => dropStays rest
  | cs => cs

/-- A path as it is seen from the directory in which it starts; a path from the root is the same
everywhere. -/
def below (path : String) : String :=
  if path.startsWith "/" then path else String.ofList (dropStays path.toList)

end ContentBlocking.Path
