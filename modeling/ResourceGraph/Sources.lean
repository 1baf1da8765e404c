import ResourceGraph.Ignore.Rules
import ResourceGraph.Scan
import ResourceGraph.Settings
import ResourceGraph.Workspace

/-!
Which files of a folder are configuration files: those with an extension looked for that no rule
ignores. Rules stand in files of the folders that a file lies in, and the rules of the project itself
come on top.
-/

namespace ResourceGraph

open Ignore Text

namespace Sources

/-- The files with rules that a folder can hold; a verdict from an earlier kind of file goes before
one from a later kind, wherever they stand. -/
def ruleFiles : List Place :=
  [[".ignore"], [".gitignore"], [".git", "info", "exclude"]]

/-- The verdict on a place from the files of one kind, that in the innermost folder first. -/
def verdictFrom (w : Workspace) (place : Place) (isFolder : Bool) (file : Place) :
    Option Verdict :=
  (List.range place.length).reverse.findSome? fun depth =>
    verdict (rulesOfFile (w.bytesAt (place.take depth ++ file)))
      ("/".intercalate (place.drop depth)) isFolder

/-- Whether a name is hidden. -/
def isHidden (name : String) : Bool :=
  startsWith name.toList ['.']

/-- Whether the rules in folders keep a place out. A hidden name needs a rule that keeps it in. -/
def isSkipped (w : Workspace) (place : Place) (isFolder : Bool) : Bool :=
  match ruleFiles.findSome? (verdictFrom w place isFolder) with
  | some .ignored => true
  | some .kept => false
  | none => (place.getLast?.map isHidden).getD false

/-- The rules of the project in a folder. -/
def rulesOf (w : Workspace) (root : Place) (excluded : List String) : List Rule :=
  projectRules (w.bytesAt (root ++ [".gitignore"])) (w.bytesAt (root ++ [".ignore"])) excluded

/-- Whether a file is left out: some folder on the way to it or the file itself is. -/
def isLeftOut (w : Workspace) (root : Place) (rules : List Rule) (file : Place) : Bool :=
  (List.range file.length).any fun n =>
    let way := file.take (n + 1)
    let isFolder := n + 1 < file.length
    isSkipped w (root ++ way) isFolder || isIgnored rules ("/".intercalate way) isFolder

/-- Whether a name has one of some extensions, in letters of either case. -/
def hasExtension (wanted : List String) (name : String) : Bool :=
  match Path.extension? name with
  | some ext => wanted.any fun other => other.map Char.toLower = ext.map Char.toLower
  | none => false

/-- The configuration files in a folder, ordered by name. -/
def collect (w : Workspace) (settings : Settings) (path : String) :
    Except Error (List SourceFile) :=
  match w.folder? path with
  | none => .error (.notFolder path)
  | some root =>
    let rules := rulesOf w root settings.excluded
    let chosen := (w.filesBelow root).filter fun (file, _) =>
      hasExtension settings.wantedExtensions (file.getLast?.getD "") &&
        !isLeftOut w root rules file
    .ok <| chosen.foldl
      (fun files (file, bytes) =>
        Sorted.upsert SourceFile.name ⟨"/".intercalate file, decodeUtf8Lossy bytes⟩ files)
      []

end Sources

end ResourceGraph
