import ResourceGraph.Workspace

/-!
The tools that scripts can call. Each reads bytes, writes bytes to two outputs and ends with a
status, zero for success.
-/

namespace ResourceGraph.Shell

open Text

/-- What a tool leaves behind. -/
structure Result where
  output : List UInt8
  /-- What goes to the output for complaints. -/
  complaint : List UInt8
  status : Nat

namespace Result

/-- Some output, and success. -/
def done (output : List UInt8) : Result :=
  ⟨output, [], 0⟩

/-- A complaint, and failure. -/
def failed (status : Nat) (message : String) : Result :=
  ⟨[], encodeUtf8 (message ++ "\n"), status⟩

end Result

/-! ### Backslashes -/

/-- The bytes that a text with backslashes stands for, while it is read. -/
structure Unescaping where
  /-- The bytes so far, in reverse. -/
  bytes : List UInt8
  /-- Whether a backslash is in front. -/
  escaped : Bool
  /-- The octal number that goes on, and how many digits it may still get. -/
  octal : Option (Nat × Nat)
  /-- Whether a zero comes in front of octal digits. -/
  leadingZero : Bool

namespace Unescaping

/-- The bytes with a character behind them. -/
def put (u : Unescaping) (c : Char) : Unescaping :=
  { u with bytes := (encodeUtf8 (String.singleton c)).reverse ++ u.bytes, escaped := false }

/-- The value of an octal digit. -/
def octalDigit? (c : Char) : Option Nat :=
  if '0' ≤ c ∧ c ≤ '7' then some (c.toNat - '0'.toNat) else none

/-- The number ends. -/
def endOctal (u : Unescaping) : Unescaping :=
  match u.octal with
  | none => u
  | some (n, _) => { u with octal := none, bytes := UInt8.ofNat n :: u.bytes }

/-- The character that a letter behind a backslash stands for. -/
def named? (c : Char) : Option Char :=
  ([('a', 7), ('b', 8), ('f', 12), ('n', 10), ('r', 13), ('t', 9), ('v', 11), ('\\', 92)].find?
    fun entry => entry.1 = c).map fun entry => Char.ofNat entry.2

/-- A character that no number takes. -/
def fresh (u : Unescaping) (c : Char) : Unescaping :=
  if !u.escaped then if c = '\\' then { u with escaped := true } else u.put c
  else
    match octalDigit? c, named? c with
    | some n, _ =>
      if u.leadingZero then
        if n = 0 then { u with escaped := false, octal := some (0, 3) } else (u.put '\\').put c
      else { u with escaped := false, octal := some (n, 2) }
    | none, some d => u.put d
    | none, none => if c = '"' then u.put c else (u.put '\\').put c

/-- A character. -/
def step (u : Unescaping) (c : Char) : Unescaping :=
  match u.octal, octalDigit? c with
  | some (n, more + 1), some d => { u with octal := some (8 * n + d, more) }
  | _, _ => u.endOctal.fresh c

end Unescaping

/-- The bytes that a text with backslashes stands for. -/
def unescape (leadingZero : Bool) (cs : List Char) : List UInt8 :=
  let u := (cs.foldl Unescaping.step ⟨[], false, none, leadingZero⟩).endOctal
  ((if u.escaped then u.put '\\' else u).bytes).reverse

/-! ### Files and lines -/

/-- The bytes of the files with some names, or the input if there are none. A hyphen is the input
too. -/
def readAll (w : Workspace) (tool : String) (paths : List String) (input : List UInt8) : Result :=
  if paths.isEmpty then .done input
  else
    paths.foldl
      (fun r path =>
        if path = "-" then { r with output := r.output ++ input }
        else if path = "/dev/null" then r
        else match w.read path with
          | .ok bytes => { r with output := r.output ++ bytes }
          | .error fault =>
            let reason := String.ofList
              ((fault.message.toList.reverse.dropWhile (· ≠ '(')).drop 2).reverse
            { r with
              status := 1
              complaint := r.complaint ++ encodeUtf8 s!"{tool}: {path}: {reason}\n" })
      (.done [])

/-- The lines of some bytes, each with its line feed. -/
def byteLines : List UInt8 → List (List UInt8)
  | [] => []
  | b :: rest =>
    if b = 0x0a then [b] :: byteLines rest
    else match byteLines rest with
      | [] => [[b]]
      | line :: lines => (b :: line) :: lines

/-- The runs of bytes between blanks. -/
def countWords (inWord : Bool) : List UInt8 → Nat
  | [] => if inWord then 1 else 0
  | b :: rest =>
    if b = 0x20 ∨ (0x09 ≤ b ∧ b ≤ 0x0d) then (if inWord then 1 else 0) + countWords false rest
    else countWords true rest

/-! ### Tools -/

/-- Whether an argument is an option. -/
def isOption (arg : String) : Bool :=
  startsWith arg.toList ['-'] && arg ≠ "-"

/-- Copies files or the input. -/
def cat (w : Workspace) (args : List String) (input : List UInt8) : Result :=
  readAll w "cat" (args.filter fun a => !isOption a) input

/-- Writes its arguments. The shell's own one minds backslashes. -/
def echo (minds : Bool) (args : List String) : Result :=
  let (words, ending) : List String × String := match args with
    | "-n" :: rest => (rest, "")
    | _ => (args, "\n")
  let text := " ".intercalate words
  .done ((if minds then unescape true text.toList else encodeUtf8 text) ++ encodeUtf8 ending)

/-- The leading number of a text. -/
def leadingNumber (cs : List Char) : Int :=
  let value (digits : List Char) : Nat :=
    (digits.takeWhile Char.isDigit).foldl (fun n c => 10 * n + (c.toNat - '0'.toNat)) 0
  match cs with
  | '-' :: rest => -Int.ofNat (value rest)
  | _ => Int.ofNat (value cs)

/-- What a letter behind a percent sign writes for an argument. -/
def formatted? (c : Char) (arg : String) : Option (List UInt8) :=
  if c = 's' then some (encodeUtf8 arg)
  else if c = 'b' then some (unescape true arg.toList)
  else if c = 'c' then some (encodeUtf8 (String.ofList (arg.toList.take 1)))
  else if c = 'd' ∨ c = 'i' then some (encodeUtf8 (toString (leadingNumber arg.toList)))
  else none

/-- A piece of a format: bytes that stand for themselves, or a place for an argument. -/
inductive FormatPiece where
  | bytes (bytes : List UInt8)
  | directive (c : Char)

/-- The pieces of a format; `text` is what goes on, in reverse. -/
def formatPieces (text : List Char) : List Char → Option (List FormatPiece)
  | [] => some [.bytes (unescape false text.reverse)]
  | '%' :: '%' :: rest => formatPieces ('%' :: text) rest
  | '%' :: c :: rest =>
    (formatPieces [] rest).map fun more =>
      .bytes (unescape false text.reverse) :: .directive c :: more
  | ['%'] => none
  | c :: rest => formatPieces (c :: text) rest

/-- Writes some pieces once: the bytes, and the arguments left. -/
def writePieces : List FormatPiece → List String → Option (List UInt8 × List String)
  | [], args => some ([], args)
  | .bytes bytes :: rest, args => (writePieces rest args).map fun (out, left) => (bytes ++ out, left)
  | .directive c :: rest, args => do
    let bytes ← formatted? c (args.head?.getD "")
    let (out, left) ← writePieces rest args.tail
    return (bytes ++ out, left)

/-- Writes some pieces as often as arguments are left, `fuel` times at most. -/
def writeRepeatedly (pieces : List FormatPiece) : Nat → List String → Option (List UInt8)
  | 0, _ => some []
  | fuel + 1, args => do
    let (out, left) ← writePieces pieces args
    if left.isEmpty ∨ left.length = args.length then return out
    return out ++ (← writeRepeatedly pieces fuel left)

/-- Writes its arguments in a format, which is used again for those left. -/
def printf (args : List String) : Result :=
  match args with
  | [] => .failed 2 "printf: usage: printf format [arguments]"
  | format :: rest =>
    match (formatPieces [] format.toList).bind fun pieces =>
      writeRepeatedly pieces (rest.length + 1) rest with
    | some out => .done out
    | none => .failed 2 "printf: invalid format"

/-- The bytes of a set of characters: ranges, and some classes by name. -/
def setBytes : List UInt8 → List UInt8
  | a :: 0x2d :: b :: rest =>
    if a ≤ b then
      ((List.range (b.toNat - a.toNat + 1)).map fun n => UInt8.ofNat (a.toNat + n)) ++ setBytes rest
    else setBytes rest
  | a :: rest => a :: setBytes rest
  | [] => []

/-- The bytes of a set in the words of a tool. -/
def readSet (text : String) : List UInt8 :=
  if text = "[:upper:]" then setBytes (encodeUtf8 "A-Z")
  else if text = "[:lower:]" then setBytes (encodeUtf8 "a-z")
  else if text = "[:digit:]" then setBytes (encodeUtf8 "0-9")
  else if text = "[:space:]" then setBytes [0x20, 0x09, 0x2d, 0x0d]
  else setBytes (unescape false text.toList)

/-- The byte that one set has where the other has `b`; the last one of a shorter set counts for all
that follow. -/
def translate (set other : List UInt8) (b : UInt8) : UInt8 :=
  match set.idxOf? b with
  | some n => (other[n]?.or other.getLast?).getD b
  | none => b

/-- Replaces or drops bytes. -/
def tr (args : List String) (input : List UInt8) : Result :=
  match args with
  | ["-d", set] => .done (input.filter fun b => !(readSet set).contains b)
  | [set, other] => .done (input.map (translate (readSet set) (readSet other)))
  | _ => .failed 1 "tr: missing operand"

/-- A number, filled up with blanks on its left. -/
def padNumber (width n : Nat) : String :=
  let digits := toString n
  String.ofList (List.replicate (width - digits.length) ' ') ++ digits

/-- Counts lines, words and bytes. -/
def wc (w : Workspace) (args : List String) (input : List UInt8) : Result :=
  let letters := (args.filter isOption).flatMap fun a => a.toList.drop 1
  let paths := args.filter fun a => !isOption a
  let read := readAll w "wc" paths input
  let chosen := fun c => letters.isEmpty || letters.contains c
  let numbers :=
    (if chosen 'l' then [read.output.count 0x0a] else []) ++
    (if chosen 'w' then [countWords false read.output] else []) ++
    (if chosen 'c' then [read.output.length] else [])
  let width :=
    if numbers.length ≤ 1 then 1
    else if paths.isEmpty then 7
    else (toString read.output.length).length
  let texts := numbers.map (padNumber width) ++ paths.take 1
  if read.status = 0 then .done (encodeUtf8 (" ".intercalate texts ++ "\n")) else read

/-- How much of its input a tool shows: so many lines or bytes. -/
def readAmount : List String → Bool × Nat × List String
  | "-n" :: n :: rest => (true, n.toNat?.getD 0, rest)
  | "-c" :: n :: rest => (false, n.toNat?.getD 0, rest)
  | arg :: rest =>
    match arg.toList with
    | '-' :: 'n' :: digits => (true, (String.ofList digits).toNat?.getD 0, rest)
    | '-' :: 'c' :: digits => (false, (String.ofList digits).toNat?.getD 0, rest)
    | '-' :: d :: digits => (true, (String.ofList (d :: digits)).toNat?.getD 0, rest)
    | _ => (true, 10, arg :: rest)
  | [] => (true, 10, [])

/-- Shows the start of files or of the input. -/
def head (w : Workspace) (args : List String) (input : List UInt8) : Result :=
  let (byLine, n, paths) := readAmount args
  let read := readAll w "head" paths input
  { read with
    output := if byLine then ((byteLines read.output).take n).flatten else read.output.take n }

/-- Shows the end of files or of the input. -/
def tail (w : Workspace) (args : List String) (input : List UInt8) : Result :=
  let (byLine, n, paths) := readAmount args
  let read := readAll w "tail" paths input
  let keep {α : Type} (items : List α) : List α := items.drop (items.length - n)
  { read with
    output := if byLine then (keep (byteLines read.output)).flatten else keep read.output }

/-- The tool of a name, within the shell or on its own. -/
def tool? (inShell : Bool) (w : Workspace) (name : String) (args : List String)
    (input : List UInt8) : Option Result :=
  match name with
  | "cat" => some (cat w args input)
  | "echo" => some (echo inShell args)
  | "printf" => some (printf args)
  | "true" => some (.done [])
  | "false" => some ⟨[], [], 1⟩
  | "sleep" => some (.done [])
  | "tr" => some (tr args input)
  | "wc" => some (wc w args input)
  | "head" => some (head w args input)
  | "tail" => some (tail w args input)
  | _ => none

/-- Whether a tool reads the input when it is called like this. -/
def consumes (name : String) (args : List String) : Bool :=
  match name with
  | "tr" => true
  | "cat" | "wc" =>
    let paths := args.filter fun a => !isOption a
    paths.isEmpty || paths.contains "-"
  | "head" | "tail" => (readAmount args).2.2.isEmpty
  | _ => false

/-- The name of a tool without the folder of programs in front of it. -/
def bareName (name : String) : String :=
  let cs := name.toList
  match dropWord? cs "/bin/".toList, dropWord? cs "/usr/bin/".toList with
  | some rest, _ => String.ofList rest
  | none, some rest => String.ofList rest
  | none, none => name

end ResourceGraph.Shell
