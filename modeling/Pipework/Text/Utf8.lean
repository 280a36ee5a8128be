/-!
# UTF-8

`encode` writes a text as bytes. `decode?` reads well-formed bytes only and says where the first
flaw is; `decodeLossy` reads any bytes and puts U+FFFD for every maximal ill-formed piece, so a
newline is never made, lost or moved by decoding.
-/

namespace Pipework

abbrev Bytes := List UInt8

namespace Utf8

def encode (s : String) : Bytes := s.toList.flatMap String.utf8EncodeChar

/-- What stands at the front of a byte sequence, with its width in bytes. -/
inductive Front where
  | char (c : Char) (width : Nat)
  | broken (width : Nat)
  | cut (width : Nat)
  deriving DecidableEq, Repr

/-- What a leading byte promises: the number of tail bytes, the bounds of the first of them, and
the bits it contributes. -/
structure Lead where
  tails : Nat
  low : UInt8
  high : UInt8
  bits : Nat

def lead? (b : UInt8) : Option Lead :=
  if 0xC2 ≤ b ∧ b ≤ 0xDF then some ⟨1, 0x80, 0xBF, b.toNat - 0xC0⟩
  else if b = 0xE0 then some ⟨2, 0xA0, 0xBF, 0⟩
  else if b = 0xED then some ⟨2, 0x80, 0x9F, 13⟩
  else if 0xE1 ≤ b ∧ b ≤ 0xEF then some ⟨2, 0x80, 0xBF, b.toNat - 0xE0⟩
  else if b = 0xF0 then some ⟨3, 0x90, 0xBF, 0⟩
  else if 0xF1 ≤ b ∧ b ≤ 0xF3 then some ⟨3, 0x80, 0xBF, b.toNat - 0xF0⟩
  else if b = 0xF4 then some ⟨3, 0x80, 0x8F, 4⟩
  else none

/-- Reads the tail bytes that are still owed; only the first has bounds of its own. -/
def tails (low high : UInt8) (bits width : Nat) : Nat → Bytes → Front
  | 0, _ => .char (Char.ofNat bits) width
  | _ + 1, [] => .cut width
  | n + 1, b :: rest =>
    if low ≤ b ∧ b ≤ high then
      tails 0x80 0xBF (bits * 64 + (b.toNat - 0x80)) (width + 1) n rest
    else .broken width

def front (b : UInt8) (rest : Bytes) : Front :=
  if b < 0x80 then .char (Char.ofNat b.toNat) 1
  else match lead? b with
    | some l => tails l.low l.high l.bits 1 l.tails rest
    | none => .broken 1

/-- Where and how wide the first ill-formed piece is; `width = none` when the bytes end inside a
sequence that was well formed so far. -/
structure Flaw where
  index : Nat
  width : Option Nat
  deriving DecidableEq, Repr

def Flaw.message (f : Flaw) : String :=
  match f.width with
  | some w => s!"invalid utf-8 sequence of {w} bytes from index {f.index}"
  | none => s!"incomplete utf-8 byte sequence from index {f.index}"

/-- Characters read so far in reverse; `skip` bytes belong to a piece already dealt with. -/
def scanLossy (done : List Char) : Nat → Bytes → List Char
  | _, [] => done.reverse
  | skip + 1, _ :: rest => scanLossy done skip rest
  | 0, b :: rest =>
    match front b rest with
    | .char c w => scanLossy (c :: done) (w - 1) rest
    | .broken w | .cut w => scanLossy ('\uFFFD' :: done) (w - 1) rest

def decodeLossy (bs : Bytes) : String := String.ofList (scanLossy [] 0 bs)

def scan? (done : List Char) (index : Nat) : Nat → Bytes → Except Flaw (List Char)
  | _, [] => .ok done.reverse
  | skip + 1, _ :: rest => scan? done (index + 1) skip rest
  | 0, b :: rest =>
    match front b rest with
    | .char c w => scan? (c :: done) (index + 1) (w - 1) rest
    | .broken w => .error ⟨index, some w⟩
    | .cut _ => .error ⟨index, none⟩

def decode? (bs : Bytes) : Except Flaw String := (scan? [] 0 0 bs).map String.ofList

end Utf8

end Pipework
