/-!
Lists in increasing order of a key. `upsert` keeps the order and holds each key once; a later
element takes the place of an earlier one of the same key.
-/

namespace ResourceGraph.Sorted

variable {α κ : Type} [Ord κ]

/-- Puts `x` at the place of its key, over an element of the same key. -/
def upsert (key : α → κ) (x : α) : List α → List α
  | [] => [x]
  | y :: ys =>
    match compare (key x) (key y) with
    | .lt => x :: y :: ys
    | .eq => x :: ys
    | .gt => y :: upsert key x ys

/-- The element of a key. -/
def find? (key : α → κ) (k : κ) (xs : List α) : Option α :=
  xs.find? fun x => compare k (key x) == .eq

/-- The value of an entry with a key. -/
def value? {β : Type} (k : κ) (entries : List (κ × β)) : Option β :=
  (find? Prod.fst k entries).map Prod.snd

/-- Changes the value under a key. If there is none, `missing` is changed and put there. -/
def alter {β : Type} (k : κ) (missing : β) (change : β → β) (entries : List (κ × β)) :
    List (κ × β) :=
  upsert Prod.fst (k, change ((value? k entries).getD missing)) entries

/-- A set of strings, in increasing order. -/
abbrev Names := List String

/-- The set with one more member. -/
def Names.insert (names : Names) (name : String) : Names :=
  upsert id name names

/-- The set with one more member; also tells whether the member is new. -/
def Names.insertNew (name : String) : Names → Bool × Names
  | [] => (true, [name])
  | y :: ys =>
    match compare name y with
    | .lt => (true, name :: y :: ys)
    | .eq => (false, name :: ys)
    | .gt =>
      let (new, rest) := insertNew name ys
      (new, y :: rest)

/-- The set of the members of a list. -/
def Names.ofList (names : List String) : Names :=
  names.foldl Names.insert []

/-- A map from strings, in increasing order of its keys. -/
abbrev Table (α : Type) := List (String × α)

/-- The map with `value` under `name`. -/
def Table.insert (table : Table α) (name : String) (value : α) : Table α :=
  upsert Prod.fst (name, value) table

/-- The value under a name. -/
def Table.find? (table : Table α) (name : String) : Option α :=
  value? name table

/-- The map that assigns each key the last value listed for it. -/
def Table.ofList (entries : List (String × α)) : Table α :=
  entries.foldl (fun table entry => Table.insert table entry.1 entry.2) []

end ResourceGraph.Sorted
