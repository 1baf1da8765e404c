/-!
Reading bytes as UTF-8. Either every byte must belong to a well-formed sequence, or each maximal
piece that is not well formed is replaced by U+FFFD.
-/

namespace ResourceGraph.Text

/-- What stands at the start of some bytes. -/
inductive Utf8Step where
  /-- A character that takes `size` bytes. -/
  | char (c : Char) (size : Nat)
  /-- `size` bytes that no well-formed sequence starts with. -/
  | malformed (size : Nat)
  /-- The bytes end within a sequence. -/
  | truncated

/-- The number of bytes that a lead byte announces behind itself, with the range of the first of
them. -/
def leadShape (b : UInt8) : Option (Nat × UInt8 × UInt8) :=
  if 0xc2 ≤ b ∧ b ≤ 0xdf then some (1, 0x80, 0xbf)
  else if b = 0xe0 then some (2, 0xa0, 0xbf)
  else if b = 0xed then some (2, 0x80, 0x9f)
  else if 0xe1 ≤ b ∧ b ≤ 0xef then some (2, 0x80, 0xbf)
  else if b = 0xf0 then some (3, 0x90, 0xbf)
  else if 0xf1 ≤ b ∧ b ≤ 0xf3 then some (3, 0x80, 0xbf)
  else if b = 0xf4 then some (3, 0x80, 0x8f)
  else none

/-- The bits that a lead byte of a sequence with `more` further bytes contributes. -/
def leadBits (b : UInt8) (more : Nat) : Nat :=
  b.toNat % (if more = 1 then 0x20 else if more = 2 then 0x10 else 0x08)

/-- Reads the `more` bytes still missing from a sequence, the next of them between `low` and
`high`; `taken` bytes are behind, and they give `code`. -/
def continueStep (more : Nat) (low high : UInt8) (taken code : Nat) : List UInt8 → Utf8Step :=
  match more with
  | 0 => fun _ => .char (Char.ofNat code) taken
  | more + 1 => fun bytes =>
    match bytes with
    | [] => .truncated
    | b :: rest =>
      if low ≤ b ∧ b ≤ high then
        continueStep more 0x80 0xbf (taken + 1) (code * 64 + b.toNat % 64) rest
      else .malformed taken

/-- What stands at the start of bytes of which `b` is the first. -/
def utf8Step (b : UInt8) (rest : List UInt8) : Utf8Step :=
  if b < 0x80 then .char (Char.ofNat b.toNat) 1
  else match leadShape b with
    | none => .malformed 1
    | some (more, low, high) => continueStep more low high 1 (leadBits b more) rest

/-- The place and kind of the first fault in some bytes. -/
structure Utf8Fault where
  /-- The number of well-formed bytes in front. -/
  index : Nat
  /-- The number of bytes that cannot start a sequence; nothing if the bytes end too early. -/
  size : Option Nat

/-- The sentence that names a fault. -/
def Utf8Fault.message (f : Utf8Fault) : String :=
  match f.size with
  | some n => s!"invalid utf-8 sequence of {n} bytes from index {f.index}"
  | none => s!"incomplete utf-8 byte sequence from index {f.index}"

/-- Reads bytes of which the first `skip` are done with and `index` are behind. -/
def decodeFrom : Nat → Nat → List UInt8 → Except Utf8Fault (List Char)
  | _, _, [] => .ok []
  | index, skip + 1, _ :: rest => decodeFrom (index + 1) skip rest
  | index, 0, b :: rest =>
    match utf8Step b rest with
    | .char c size => (decodeFrom (index + 1) (size - 1) rest).map (c :: ·)
    | .malformed size => .error ⟨index, some size⟩
    | .truncated => .error ⟨index, none⟩

/-- The text of some bytes, all of which must be well formed. -/
def decodeUtf8 (bytes : List UInt8) : Except Utf8Fault String :=
  (decodeFrom 0 0 bytes).map String.ofList

/-- Reads bytes with replacement; the first `skip` are done with. -/
def decodeLossyFrom : Nat → List UInt8 → List Char
  | _, [] => []
  | skip + 1, _ :: rest => decodeLossyFrom skip rest
  | 0, b :: rest =>
    match utf8Step b rest with
    | .char c size => c :: decodeLossyFrom (size - 1) rest
    | .malformed size => Char.ofNat 0xfffd :: decodeLossyFrom (size - 1) rest
    | .truncated => [Char.ofNat 0xfffd]

/-- The text of some bytes, with U+FFFD for each piece that is not well formed. -/
def decodeUtf8Lossy (bytes : List UInt8) : String :=
  String.ofList (decodeLossyFrom 0 bytes)

/-- The bytes of a string. -/
def encodeUtf8 (s : String) : List UInt8 :=
  s.toUTF8.toList

end ResourceGraph.Text
