import ResourceGraph.Text.Lines

/-!
Paths: names separated by slashes. Empty names and single points do not count, and the last name
may have an extension behind its last point.
-/

namespace ResourceGraph.Path

open Text

/-- The names of a path that count, in order. -/
def names (path : String) : List (List Char) :=
  (split '/' path.toList).filter fun name => name ≠ [] ∧ name ≠ ['.']

/-- The names of a path as strings. -/
def steps (path : String) : List String :=
  (names path).map String.ofList

/-- Whether a path starts at the root of all folders. -/
def isAbsolute (path : String) : Bool :=
  startsWith path.toList ['/']

/-- Whether a path can only lead to a folder: its last part is empty or a point. -/
def asksForFolder (path : String) : Bool :=
  match (split '/' path.toList).getLast? with
  | some name => name.isEmpty || name = ['.']
  | none => false

/-- The last name, unless it points to the folder above. -/
def fileName? (path : String) : Option (List Char) :=
  match (names path).getLast? with
  | some name => if name = ['.', '.'] then none else some name
  | none => none

/-- A name in front of and behind its last point. A point at the start separates nothing. -/
def splitExtension (name : List Char) : List Char × Option (List Char) :=
  let back := name.reverse.takeWhile (· ≠ '.')
  match name.reverse.dropWhile (· ≠ '.') with
  | _ :: front => if front.isEmpty then (name, none) else (front.reverse, some back.reverse)
  | [] => (name, none)

/-- The extension of a path. -/
def extension? (path : String) : Option String := do
  let name ← fileName? path
  let ext ← (splitExtension name).2
  return String.ofList ext

/-- The last name of a path without its extension. -/
def stem? (path : String) : Option String :=
  (fileName? path).map fun name => String.ofList (splitExtension name).1

end ResourceGraph.Path
