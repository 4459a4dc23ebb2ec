/-!
# Bytes as text

Decoding of UTF-8. A fault is a longest run of bytes that begins a character without finishing it; at the end of the
bytes it is a character that breaks off.

* `decode`: the text of some bytes, or the first fault,
* `decodeLossy`: the text with every fault replaced by U+FFFD,
* `encode`: the bytes of a text.
-/

namespace Retarget

/-- A sequence of bytes. -/
abbrev Bytes := List UInt8

namespace Text

/-- The bytes of a text. -/
def encode (s : String) : Bytes := s.toList.flatMap String.utf8EncodeChar

/-- Where bytes are no text: after `index` good bytes, with `length` bad bytes, or none if a character breaks off. -/
structure Fault where
  index : Nat
  length : Option Nat
deriving Repr, BEq, DecidableEq

def Fault.message (f : Fault) : String :=
  match f.length with
  | some n => s!"invalid utf-8 sequence of {n} bytes from index {f.index}"
  | none => s!"incomplete utf-8 byte sequence from index {f.index}"

/-- How the next character is written. -/
inductive Chunk
  /-- A character of so many bytes. -/
  | char (c : Char) (width : Nat)
  /-- A fault of so many bytes. -/
  | bad (width : Nat)
  /-- A character that breaks off. -/
  | cut
deriving Repr, BEq

/-- Is the byte a continuation byte in the given range? -/
def within (lo hi : Nat) (b : UInt8) : Bool := lo ≤ b.toNat && b.toNat ≤ hi

/-- The range of the second byte after a first byte of three or four. -/
def secondRange (first : Nat) : Nat × Nat :=
  if first == 0xE0 then (0xA0, 0xBF)
  else if first == 0xED then (0x80, 0x9F)
  else if first == 0xF0 then (0x90, 0xBF)
  else if first == 0xF4 then (0x80, 0x8F)
  else (0x80, 0xBF)

/-- Read the continuation bytes of a character: `value` is what has been read, `width` its bytes, and `ranges` the
ranges of the bytes to come. -/
def readTail (value width : Nat) : List (Nat × Nat) → Bytes → Chunk
  | [], _ => .char (Char.ofNat value) width
  | _ :: _, [] => .cut
  | (lo, hi) :: more, b :: rest =>
    if within lo hi b then readTail (64 * value + (b.toNat - 0x80)) (width + 1) more rest else .bad width

/-- Read one character from its first byte on. -/
def readChunk (first : UInt8) (rest : Bytes) : Chunk :=
  let n := first.toNat
  if n < 0x80 then .char (Char.ofNat n) 1
  else if n < 0xC2 then .bad 1
  else if n < 0xE0 then readTail (n - 0xC0) 1 [(0x80, 0xBF)] rest
  else if n < 0xF0 then readTail (n - 0xE0) 1 [secondRange n, (0x80, 0xBF)] rest
  else if n < 0xF5 then readTail (n - 0xF0) 1 [secondRange n, (0x80, 0xBF), (0x80, 0xBF)] rest
  else .bad 1

/-- Decode the bytes from an index on. Each round reads a byte at least. -/
def decodeFrom : Nat → Nat → Bytes → Except Fault (List Char)
  | _, _, [] => .ok []
  | 0, index, _ :: _ => .error ⟨index, none⟩
  | fuel + 1, index, b :: rest =>
    match readChunk b rest with
    | .char c width => do return c :: (← decodeFrom fuel (index + width) (rest.drop (width - 1)))
    | .bad width => .error ⟨index, some width⟩
    | .cut => .error ⟨index, none⟩

/-- The text of some bytes. -/
def decode (bytes : Bytes) : Except Fault String := do
  return String.ofList (← decodeFrom bytes.length 0 bytes)

/-- Decode bytes, with U+FFFD for each fault. -/
def decodeLossyFrom : Nat → Bytes → List Char
  | _, [] => []
  | 0, _ => []
  | fuel + 1, b :: rest =>
    match readChunk b rest with
    | .char c width => c :: decodeLossyFrom fuel (rest.drop (width - 1))
    | .bad width => '\uFFFD' :: decodeLossyFrom fuel (rest.drop (width - 1))
    | .cut => ['\uFFFD']

/-- The text of some bytes, with U+FFFD for each fault. -/
def decodeLossy (bytes : Bytes) : String := String.ofList (decodeLossyFrom bytes.length bytes)

end Text

end Retarget
