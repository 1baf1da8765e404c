import ResourceGraph.Text.Lines
import ResourceGraph.Text.Utf8

/-!
Globs: patterns of paths. A star stands for any part of a name, two stars between slashes for any
number of folders, a question mark for one byte, brackets for one byte of a class, and braces for
one of several alternatives. Alternatives are spelled out when a glob is read, so that a glob is a
list of sequences of which one has to match.
-/

namespace ResourceGraph.Ignore

open Text

/-- What a piece of a glob stands for. -/
inductive Piece where
  | byte (b : UInt8)
  /-- A byte that is no slash. -/
  | anyByte
  /-- Any number of bytes that are no slash. -/
  | anyName
  /-- Nothing, or anything up to a slash; a leading slash alone may stand there too. -/
  | foldersFront
  /-- A slash, or anything from one slash to another. -/
  | foldersBetween
  /-- A slash and anything behind it. -/
  | anythingBelow
  /-- A byte within some ranges, or outside all of them. -/
  | oneOf (negated : Bool) (ranges : List (UInt8 × UInt8))

/-- The byte of a slash. -/
def slash : UInt8 := 0x2f

/-- Tries `next` behind every leading run of bytes that are no slash. -/
def skipName (next : List UInt8 → Bool) : List UInt8 → Bool
  | [] => next []
  | b :: rest => next (b :: rest) || (b ≠ slash && skipName next rest)

/-- Tries `next` behind every slash. -/
def skipToSlash (next : List UInt8 → Bool) : List UInt8 → Bool
  | [] => false
  | b :: rest => (b = slash && next rest) || skipToSlash next rest

/-- Tries `next` at every place. -/
def skipAny (next : List UInt8 → Bool) : List UInt8 → Bool
  | [] => next []
  | b :: rest => next (b :: rest) || skipAny next rest

/-- Whether a sequence of pieces stands for exactly these bytes. -/
def matchPieces : List Piece → List UInt8 → Bool
  | [], bytes => bytes.isEmpty
  | .byte b :: rest, bytes =>
    match bytes with
    | c :: more => c = b && matchPieces rest more
    | [] => false
  | .anyByte :: rest, bytes =>
    match bytes with
    | c :: more => c ≠ slash && matchPieces rest more
    | [] => false
  | .anyName :: rest, bytes => skipName (matchPieces rest) bytes
  | .foldersFront :: rest, bytes =>
    matchPieces rest bytes || skipToSlash (matchPieces rest) bytes
  | .foldersBetween :: rest, bytes =>
    match bytes with
    | c :: more => c = slash && (matchPieces rest more || skipToSlash (matchPieces rest) more)
    | [] => false
  | .anythingBelow :: rest, bytes =>
    match bytes with
    | c :: more => c = slash && skipAny (matchPieces rest) more
    | [] => false
  | .oneOf negated ranges :: rest, bytes =>
    match bytes with
    | c :: more =>
      (ranges.any fun (low, high) => low ≤ c && c ≤ high) ≠ negated && matchPieces rest more
    | [] => false

/-- A glob: one of its sequences of pieces has to match. -/
abbrev Glob := List (List Piece)

/-- Whether a glob stands for a path. Two stars alone stand for every path. -/
def Glob.matchesPath (g : Glob) (path : List UInt8) : Bool :=
  g.any fun pieces =>
    match pieces with
    | [.foldersFront] => true
    | _ => matchPieces pieces path

/-! ### Reading -/

/-- One alternative while it is read: its sequences in reverse, and whether anything was written in
it. -/
structure Branch where
  sequences : List (List Piece)
  written : Bool

namespace Branch

/-- A branch in which nothing is written. -/
def fresh : Branch :=
  ⟨[[]], false⟩

/-- A branch with one more piece. -/
def push (b : Branch) (p : Piece) : Branch :=
  ⟨b.sequences.map (p :: ·), true⟩

/-- A branch with one more character. -/
def pushChar (b : Branch) (c : Char) : Branch :=
  (encodeUtf8 (String.singleton c)).foldl (fun b byte => b.push (.byte byte)) b

/-- A branch with the last piece replaced; two stars in front of it stay what they are. -/
def replaceLast (b : Branch) (p : Piece) : Branch :=
  { b with sequences := b.sequences.map fun
      | .foldersFront :: rest => .foldersFront :: rest
      | .anythingBelow :: rest => .anythingBelow :: rest
      | _ :: rest => p :: rest
      | [] => [p] }

/-- Whether a branch stands for nothing but the empty text, and is written that way. -/
def isBlank (b : Branch) : Bool :=
  match b.sequences with
  | [[]] => true
  | _ => false

/-- A branch followed by one of several alternatives. Empty alternatives do not count. -/
def pushAlternatives (b : Branch) (alternatives : List Branch) : Branch :=
  let sequences := (alternatives.filter fun a => !a.isBlank).flatMap (·.sequences)
  if sequences.isEmpty then { b with written := true }
  else ⟨b.sequences.flatMap fun front => sequences.map fun back => back ++ front, true⟩

end Branch

/-- The ranges of bytes that a range of characters stands for: the last byte of the first character
and the first byte of the last one bound it, and their other bytes stand alone. -/
def byteRanges (low high : Char) : List (UInt8 × UInt8) :=
  let first := encodeUtf8 (String.singleton low)
  let last := encodeUtf8 (String.singleton high)
  if low = high then first.map fun b => (b, b)
  else
    first.dropLast.map (fun b => (b, b)) ++
    (match first.getLast?, last.head? with
      | some a, some b => [(a, b)]
      | _, _ => []) ++
    last.tail.map fun b => (b, b)

/-- What the reading of a class gives. -/
inductive ClassResult where
  /-- The ranges of the class, and the text behind it. -/
  | closed (ranges : List (Char × Char)) (rest : List Char)
  /-- No closing bracket follows. -/
  | unclosed
  /-- A range ends before it starts. -/
  | invalid

/-- Reads a class. `ranges` are the ranges so far in reverse, `first` tells that none is read yet,
and `open_` that a hyphen waits for the end of a range. -/
def readClass (ranges : List (Char × Char)) (first waiting : Bool) : List Char → ClassResult
  | [] => .unclosed
  | c :: rest =>
    let extend : ClassResult :=
      match ranges with
      | (low, _) :: others =>
        if c < low then .invalid else readClass ((low, c) :: others) false false rest
      | [] => .invalid
    if c = ']' then
      if first then readClass ((']', ']') :: ranges) false false rest
      else .closed (if waiting then ('-', '-') :: ranges else ranges).reverse rest
    else if c = '-' then
      if first then readClass (('-', '-') :: ranges) false false rest
      else if waiting then extend
      else readClass ranges false true rest
    else if waiting then extend
    else readClass ((c, c) :: ranges) false false rest

/-- A glob while it is read. -/
structure GlobProgress where
  /-- The branch that is written to. -/
  branch : Branch
  /-- The open groups, innermost first: their finished branches in reverse, and the branch around. -/
  groups : List (List Branch × Branch)
  /-- Whether a bracket was found that nothing closes; brackets stand for themselves from there. -/
  literalBrackets : Bool

/-- A branch behind two stars, and whether the slash behind them belongs to them. `before` and
`rest` are what stands around them. Two stars stand for folders only where slashes or the ends of
the text bound them; elsewhere they are two single stars. -/
def Branch.pushStars (b : Branch) (nested : Bool) (before : Option Char) (rest : List Char) :
    Branch × Bool :=
  let single := (b.push .anyName).push .anyName
  let front : Bool := before = some '/' || (nested && (before = some ',' || before = some '\x7b'))
  match rest with
  | [] =>
    (if !b.written then b.push .foldersFront
      else if front then b.replaceLast .anythingBelow else single, false)
  | '/' :: _ =>
    if !b.written then (b.push .foldersFront, true)
    else if front then (b.replaceLast .foldersBetween, true)
    else (single, false)
  | c :: _ =>
    (if b.written && front && nested && (c = ',' || c = '\x7d') then b.replaceLast .anythingBelow
      else single, false)

/-- Reads the rest of a glob; `before` is the character in front of it. -/
def readGlob (p : GlobProgress) (before : Option Char) : List Char → Option Glob
  | [] => if p.groups.isEmpty then some (p.branch.sequences.map List.reverse) else none
  | '?' :: rest => readGlob { p with branch := p.branch.push .anyByte } (some '?') rest
  | '*' :: '*' :: rest =>
    let (branch, eatsSlash) := p.branch.pushStars (!p.groups.isEmpty) before rest
    if eatsSlash then readGlob { p with branch } (some '/') (rest.drop 1)
    else readGlob { p with branch } (some '*') rest
  | '*' :: rest => readGlob { p with branch := p.branch.push .anyName } (some '*') rest
  | '[' :: rest =>
    let literal := p.branch.pushChar '['
    if p.literalBrackets then readGlob { p with branch := literal } (some '[') rest
    else
      let negated : Bool := startsWith rest ['!'] || startsWith rest ['^']
      match readClass [] true false (if negated then rest.drop 1 else rest) with
      | .invalid => none
      | .unclosed => readGlob { p with branch := literal, literalBrackets := true } (some '[') rest
      | .closed ranges after =>
        let piece := Piece.oneOf negated (ranges.flatMap fun (low, high) => byteRanges low high)
        if after.length ≤ rest.length then
          readGlob { p with branch := p.branch.push piece } (some ']') after
        else none
  | '\x7b' :: rest =>
    readGlob { p with branch := .fresh, groups := ([], p.branch) :: p.groups } (some '\x7b') rest
  | '\x7d' :: rest =>
    match p.groups with
    | [] => none
    | (done, outer) :: groups =>
      let branch := outer.pushAlternatives (p.branch :: done).reverse
      readGlob { p with branch, groups } (some '\x7d') rest
  | ',' :: rest =>
    match p.groups with
    | [] => readGlob { p with branch := p.branch.pushChar ',' } (some ',') rest
    | (done, outer) :: groups =>
      readGlob { p with branch := .fresh, groups := (p.branch :: done, outer) :: groups } (some ',')
        rest
  | ['\\'] => none
  | '\\' :: c :: rest => readGlob { p with branch := p.branch.pushChar c } (some c) rest
  | c :: rest => readGlob { p with branch := p.branch.pushChar c } (some c) rest
termination_by cs => cs.length
decreasing_by all_goals simp_wf <;> omega

/-- The glob that a text stands for. -/
def Glob.read? (cs : List Char) : Option Glob :=
  readGlob ⟨.fresh, [], false⟩ none cs

end ResourceGraph.Ignore
