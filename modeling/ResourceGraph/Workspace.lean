import ResourceGraph.Error
import ResourceGraph.Path
import ResourceGraph.Text.Utf8

/-!
A workspace: the files and folders below one folder. Paths lead from that folder name by name; two
points lead back, and nothing leads out of the workspace.
-/

namespace ResourceGraph

open Text

/-- What stands at a place. -/
inductive Entry where
  | file (bytes : List UInt8)
  | folder

/-- A place: the names that lead to it from the folder of the workspace. -/
abbrev Place := List String

/-- The files and folders of a workspace by their places. -/
structure Workspace where
  entries : List (Place × Entry)

namespace Workspace

/-- The workspace without files and folders. -/
def empty : Workspace :=
  ⟨[]⟩

/-- What stands at a place. The folder of the workspace itself is always there. -/
def entry? (w : Workspace) (place : Place) : Option Entry :=
  if place.isEmpty then some .folder
  else (w.entries.find? fun e => e.1 = place).map (·.2)

/-- The workspace with an entry at a place, over the one that was there. -/
def put (w : Workspace) (place : Place) (entry : Entry) : Workspace :=
  ⟨(w.entries.filter fun e => e.1 ≠ place) ++ [(place, entry)]⟩

/-- The workspace with a folder at a place, unless something is there. -/
def addFolder (w : Workspace) (place : Place) : Workspace :=
  if (w.entry? place).isSome then w else w.put place .folder

/-- The workspace with folders at a place and at all places on the way to it. -/
def addFolders (w : Workspace) (place : Place) : Workspace :=
  (List.range (place.length + 1)).foldl (fun w n => w.addFolder (place.take n)) w

/-- The workspace with a file at a place, and the folders on the way to it. -/
def addFile (w : Workspace) (place : Place) (bytes : List UInt8) : Workspace :=
  (w.addFolders place.dropLast).put place (.file bytes)

/-! ### Paths -/

/-- The place that one more name leads to. -/
def step? (place : Place) (name : String) : Option Place :=
  if name = ".." then
    if place.isEmpty then none else some place.dropLast
  else some (place ++ [name])

/-- The place that names lead to. All places on the way must be folders. -/
def follow (w : Workspace) (place : Place) : List String → Except FileFault Place
  | [] => .ok place
  | name :: rest =>
    match w.entry? place with
    | none => .error .missing
    | some (.file _) => .error .notFolder
    | some .folder =>
      match step? place name with
      | none => .error .missing
      | some next => w.follow next rest

/-- The place that a path leads to. Nothing needs to stand there. -/
def locate (w : Workspace) (path : String) : Except FileFault Place :=
  if path.isEmpty || Path.isAbsolute path then .error .missing
  else w.follow [] (Path.steps path)

/-- What stands at the end of a path. -/
def find (w : Workspace) (path : String) : Except FileFault Entry := do
  let place ← w.locate path
  match w.entry? place with
  | none => .error .missing
  | some .folder => .ok .folder
  | some (.file bytes) => if Path.asksForFolder path then .error .notFolder else .ok (.file bytes)

/-- Whether anything stands at the end of a path. -/
def has (w : Workspace) (path : String) : Bool :=
  match w.find path with
  | .ok _ => true
  | .error _ => false

/-- The place of the folder at the end of a path. -/
def folder? (w : Workspace) (path : String) : Option Place :=
  match w.find path, w.locate path with
  | .ok .folder, .ok place => some place
  | _, _ => none

/-- The bytes of the file at the end of a path. -/
def read (w : Workspace) (path : String) : Except FileFault (List UInt8) := do
  match ← w.find path with
  | .file bytes => .ok bytes
  | .folder => .error .isFolder

/-- The text of the file at the end of a path. -/
def readText (w : Workspace) (path : String) : Except FileFault String := do
  match decodeUtf8 (← w.read path) with
  | .ok text => .ok text
  | .error _ => .error .notText

/-- The workspace with other bytes in the file at the end of a path. The file is made if it is
missing, its folder is not. -/
def write (w : Workspace) (path : String) (bytes : List UInt8) : Except FileFault Workspace := do
  let place ← w.locate path
  match w.entry? place with
  | some .folder => .error .isFolder
  | some (.file _) =>
    if Path.asksForFolder path then .error .notFolder else .ok (w.put place (.file bytes))
  | none => if Path.asksForFolder path then .error .isFolder else .ok (w.put place (.file bytes))

/-- The workspace with folders at all places that names lead over, from a place on. -/
def makeFolders (w : Workspace) (place : Place) : List String → Except FileFault Workspace
  | [] => .ok w
  | name :: rest =>
    match step? place name with
    | none => .error .missing
    | some next =>
      match w.entry? next with
      | some (.file _) => .error .notFolder
      | some .folder => w.makeFolders next rest
      | none => (w.put next .folder).makeFolders next rest

/-- The workspace with the folder that the file at the end of a path belongs into, unless something
stands there. -/
def makeParent (w : Workspace) (path : String) : Except FileFault Workspace :=
  let parent := (Path.steps path).dropLast
  match w.follow [] parent with
  | .ok place => if (w.entry? place).isSome then .ok w else w.makeFolders [] parent
  | .error _ => w.makeFolders [] parent

/-! ### Contents -/

/-- The bytes of the file at a place; nothing for all else. -/
def bytesAt (w : Workspace) (place : Place) : List UInt8 :=
  match w.entry? place with
  | some (.file bytes) => bytes
  | _ => []

/-- The files below a place, by the names that lead to them from there. -/
def filesBelow (w : Workspace) (root : Place) : List (Place × List UInt8) :=
  w.entries.filterMap fun (place, entry) =>
    match entry with
    | .file bytes =>
      if root.isPrefixOf place then some (place.drop root.length, bytes) else none
    | .folder => none

end Workspace

end ResourceGraph
