import ResourceGraph.Toml.Scalar

/-!
Reading a TOML document: lines that assign to keys, and headers of tables between them.
-/

namespace ResourceGraph.Toml

/-- The text behind a comment and the end of a line; nothing if something else stands there. -/
def endLine? (cs : List Char) : Option (List Char) :=
  let rest := match skipInline cs with
    | '#' :: comment => comment.dropWhile isPrintable
    | other => other
  match rest with
  | [] => some []
  | '\n' :: after => some after
  | '\r' :: '\n' :: after => some after
  | _ => none

/-- The text behind blanks, comments and line endings. -/
def skipLines (cs : List Char) : List Char :=
  let start := skipInline cs
  match start with
  | c :: _ =>
    if c = '#' ∨ c = '\n' ∨ c = '\r' then
      match endLine? start with
      | some after => if after.length < cs.length then skipLines after else after
      | none => start
    else start
  | [] => []
termination_by cs.length

/-- A part of a key: a bare word or a string on one line. -/
def simpleKey (cs : List Char) : Option (String × List Char) :=
  let isBare (c : Char) : Bool := c.isAlphanum || c = '_' || c = '-'
  match cs.takeWhile isBare with
  | [] => shortString cs
  | word => some (String.ofList word, cs.dropWhile isBare)

/-- A key: parts with points between them. The text behind its blanks is left. -/
def dottedKey (cs : List Char) : Option (List String × List Char) :=
  match simpleKey cs with
  | none => none
  | some (part, rest) =>
    match skipInline rest with
    | '.' :: more =>
      let next := skipInline more
      if next.length < cs.length then
        (dottedKey next).map fun (parts, after) => (part :: parts, after)
      else none
    | after => some ([part], after)
termination_by cs.length

/-- The greatest number of parts of a key, and the greatest depth of values. -/
def maxDepth : Nat := 79

/-- A key as the path to a table and the last part. -/
def keyPath (cs : List Char) : Option (List String × String × List Char) :=
  match dottedKey cs with
  | none => none
  | some (parts, rest) =>
    if maxDepth < parts.length then none
    else parts.getLast?.map fun last => (parts.dropLast, last, rest)

/-- The items of a list behind its opening bracket. -/
def listItems (item : Reader Value) (cs : List Char) : Option (List Value × List Char) :=
  match skipLines cs with
  | ']' :: rest => some ([], rest)
  | start =>
    match item start with
    | none => none
    | some (v, rest) =>
      match skipLines rest with
      | ']' :: after => some ([v], after)
      | ',' :: after =>
        if after.length < cs.length then
          (listItems item after).map fun (vs, last) => (v :: vs, last)
        else none
      | _ => none
termination_by cs.length

/-- An assignment to a key: the path to a table, the last part of the key and the value. -/
def assignment (item : Reader Value) (cs : List Char) :
    Option ((List String × String × Value) × List Char) := do
  let (path, key, rest) ← keyPath cs
  let rest ← dropChar? '=' rest
  let (v, rest) ← item (skipInline rest)
  return ((path, key, v), skipInline rest)

/-- The assignments of an inline table; at least one is left. -/
def inlineEntries (item : Reader Value) (t : Table) (cs : List Char) :
    Option (List Char) :=
  match assignment item cs with
  | none => none
  | some ((path, key, v), rest) =>
    match t.assign path key v with
    | none => none
    | some t =>
      match rest with
      | '}' :: after => some after
      | ',' :: after =>
        let next := skipInline after
        if next.length < cs.length then inlineEntries item t next else none
      | _ => none
termination_by cs.length

/-- A value with at most `depth` levels of lists and inline tables. -/
def value : Nat → Reader Value
  | 0, cs => scalar cs
  | depth + 1, cs =>
    match cs with
    | '[' :: rest => (listItems (value depth) rest).map fun (vs, after) => (.list vs, after)
    | '{' :: rest =>
      match skipInline rest with
      | '}' :: after => some (.inlineTable, after)
      | start => (inlineEntries (value depth) .explicit start).map (.inlineTable, ·)
    | _ => scalar cs

/-- A document read so far: its tables, and the path to the one that is being filled. -/
structure Progress where
  root : Table
  path : List String

/-- Reads one line that is not empty. -/
def readLine (p : Progress) (cs : List Char) : Option (Progress × List Char) :=
  match cs with
  | '[' :: '[' :: rest => do
    let (path, key, rest) ← keyPath (skipInline rest)
    let rest ← dropChar? ']' rest
    let rest ← dropChar? ']' rest
    let root ← p.root.update false (Table.pushTable key) path
    return (⟨root, path ++ [key]⟩, ← endLine? rest)
  | '[' :: rest => do
    let (path, key, rest) ← keyPath (skipInline rest)
    let rest ← dropChar? ']' rest
    let root ← p.root.update false (Table.openTable key) path
    return (⟨root, path ++ [key]⟩, ← endLine? rest)
  | _ => do
    let ((path, key, v), rest) ← assignment (value maxDepth) cs
    let root ← p.root.update false (Table.assign path key v) p.path
    return ({ p with root := root }, ← endLine? rest)

/-- Reads all lines. -/
def readLines (p : Progress) (cs : List Char) : Option Table :=
  if cs.isEmpty then some p.root
  else match endLine? cs with
    | some after => if after.length < cs.length then readLines p after else none
    | none =>
      match readLine p (skipInline cs) with
      | none => none
      | some (next, after) => if after.length < cs.length then readLines next after else none
termination_by cs.length

/-- The table that a document stands for. A byte order mark in front of it does not count. -/
def read? (s : String) : Option Table :=
  let cs := match s.toList with
    | c :: rest => if c.toNat = 0xfeff then rest else c :: rest
    | [] => []
  readLines ⟨.explicit, []⟩ cs

end ResourceGraph.Toml
