/-!
TOML values, and tables while a document fills them. A table may be written by a header, be there
only because a longer header or key leads through it, or be written by dotted keys; which of these
it is decides what may still be added to it.
-/

namespace ResourceGraph.Toml

/-- A value. Of floats and times only the fact that they are well formed is kept. -/
inductive Value where
  | text (value : String)
  | int (value : Int)
  | float
  | bool (value : Bool)
  | time
  | list (items : List Value)
  | inlineTable

mutual

/-- What stands under a key. -/
inductive Item where
  | value (v : Value)
  | table (t : Table)
  /-- Tables under one header with double brackets, the latest first. -/
  | tables (ts : List Table)

/-- A table. -/
inductive Table where
  /-- `implicit` tells that no header has written the table, `dotted` that a dotted key has. -/
  | mk (implicit dotted : Bool) (entries : List (String × Item))

end

namespace Table

/-- A table that a header writes. -/
def explicit : Table := .mk false false []

/-- Whether no header has written the table. -/
def isImplicit : Table → Bool
  | .mk implicit _ _ => implicit

/-- Whether dotted keys have written the table. -/
def isDotted : Table → Bool
  | .mk _ dotted _ => dotted

/-- The keys and items of a table. -/
def entries : Table → List (String × Item)
  | .mk _ _ entries => entries

/-- The item under a key. -/
def find? (t : Table) (key : String) : Option Item :=
  (t.entries.find? fun e => e.1 = key).map Prod.snd

/-- Puts an item under a key. -/
def set (t : Table) (key : String) (item : Item) : Table :=
  .mk t.isImplicit t.isDotted ((key, item) :: t.entries.filter fun e => e.1 ≠ key)

/-- Changes the table at the end of a path. Tables on the way are made if they are missing. A path
leads through the last of several tables under one header, and never through a value; one that
dotted keys spell does not lead through tables written by headers either. -/
def update (dotted : Bool) (change : Table → Option Table) : List String → Table → Option Table
  | [], t => change t
  | key :: path, t =>
    match t.find? key with
    | none => (update dotted change path (.mk true dotted [])).map fun c => t.set key (.table c)
    | some (.value _) => none
    | some (.tables []) => none
    | some (.tables (last :: others)) =>
      (update dotted change path last).map fun c => t.set key (.tables (c :: others))
    | some (.table c) =>
      if dotted && !c.isImplicit then none
      else (update dotted change path c).map fun c => t.set key (.table c)

/-- Gives a value to a dotted key, of which `path` is all but the last part. -/
def assign (path : List String) (key : String) (v : Value) (t : Table) : Option Table :=
  update true (fun t =>
    if t.isDotted == path.isEmpty then none
    else match t.find? key with
      | some _ => none
      | none => some (t.set key (.value v))) path t

/-- Writes the header of a table. -/
def openTable (key : String) (t : Table) : Option Table :=
  match t.find? key with
  | none => some (t.set key (.table explicit))
  | some (.table c) =>
    if c.isImplicit && !c.isDotted then some (t.set key (.table (.mk false false c.entries)))
    else none
  | some _ => none

/-- Writes the header of one more table under a key. -/
def pushTable (key : String) (t : Table) : Option Table :=
  match t.find? key with
  | none => some (t.set key (.tables [explicit]))
  | some (.tables ts) => some (t.set key (.tables (explicit :: ts)))
  | some _ => none

end Table

end ResourceGraph.Toml
