import CallPlan.Text.Glyph
import CallPlan.Text.Quoted

/-!
BLAKE2b with a digest of 32 bytes and no key. The message is cut into blocks of 128 bytes, each mixed
into a state of eight words in twelve rounds.
-/

namespace CallPlan.Digest

def initial : Array UInt64 := #[
  0x6a09e667f3bcc908, 0xbb67ae8584caa73b, 0x3c6ef372fe94f82b, 0xa54ff53a5f1d36f1,
  0x510e527fade682d1, 0x9b05688c2b3e6c1f, 0x1f83d9abfb41bd6b, 0x5be0cd19137e2179]

/-- The order in which each round takes the words of a block. -/
def schedule : List (Array Nat) := [
  #[0, 1, 2, 3, 4, 5, 6, 7, 8, 9, 10, 11, 12, 13, 14, 15],
  #[14, 10, 4, 8, 9, 15, 13, 6, 1, 12, 0, 2, 11, 7, 5, 3],
  #[11, 8, 12, 0, 5, 2, 15, 13, 10, 14, 3, 6, 7, 1, 9, 4],
  #[7, 9, 3, 1, 13, 12, 11, 14, 2, 6, 5, 10, 4, 0, 15, 8],
  #[9, 0, 5, 7, 2, 4, 10, 15, 14, 1, 11, 12, 6, 8, 3, 13],
  #[2, 12, 6, 10, 0, 11, 8, 3, 4, 13, 7, 5, 15, 14, 1, 9],
  #[12, 5, 1, 15, 14, 13, 4, 10, 0, 7, 6, 3, 9, 2, 8, 11],
  #[13, 11, 7, 14, 12, 1, 3, 9, 5, 0, 15, 4, 8, 6, 2, 10],
  #[6, 15, 14, 9, 11, 3, 0, 8, 12, 2, 13, 7, 1, 4, 10, 5],
  #[10, 2, 8, 4, 7, 6, 1, 5, 15, 11, 9, 14, 3, 12, 13, 0],
  #[0, 1, 2, 3, 4, 5, 6, 7, 8, 9, 10, 11, 12, 13, 14, 15],
  #[14, 10, 4, 8, 9, 15, 13, 6, 1, 12, 0, 2, 11, 7, 5, 3]]

def rotateRight (x : UInt64) (n : UInt64) : UInt64 := (x >>> n) ||| (x <<< (64 - n))

/-- Mixes two message words into four words of the state. -/
def mix (v : Array UInt64) (a b c d : Nat) (x y : UInt64) : Array UInt64 :=
  let va := v.getD a 0 + v.getD b 0 + x
  let vd := rotateRight (v.getD d 0 ^^^ va) 32
  let vc := v.getD c 0 + vd
  let vb := rotateRight (v.getD b 0 ^^^ vc) 24
  let va := va + vb + y
  let vd := rotateRight (vd ^^^ va) 16
  let vc := vc + vd
  let vb := rotateRight (vb ^^^ vc) 63
  (((v.setIfInBounds a va).setIfInBounds b vb).setIfInBounds c vc).setIfInBounds d vd

/-- The words that the eight mixings of a round work on: columns first, then diagonals. -/
def lanes : List (Nat × Nat × Nat × Nat) := [
  (0, 4, 8, 12), (1, 5, 9, 13), (2, 6, 10, 14), (3, 7, 11, 15),
  (0, 5, 10, 15), (1, 6, 11, 12), (2, 7, 8, 13), (3, 4, 9, 14)]

def round (message : Array UInt64) (v : Array UInt64) (order : Array Nat) : Array UInt64 :=
  let word (i : Nat) : UInt64 := message.getD (order.getD i 0) 0
  lanes.zipIdx.foldl (fun v ((a, b, c, d), i) => mix v a b c d (word (2 * i)) (word (2 * i + 1))) v

/-- A word from its bytes, the least significant first. -/
def word : List UInt8 → UInt64
  | [] => 0
  | byte :: rest => byte.toUInt64 ||| (word rest <<< 8)

def words : Nat → List UInt8 → List UInt64
  | 0, _ => []
  | count + 1, bytes => word (bytes.take 8) :: words count (bytes.drop 8)

/-- Mixes one block into the state; `count` bytes have been read with it. -/
def compress (state : Array UInt64) (block : List UInt8) (count : Nat) (last : Bool) :
    Array UInt64 :=
  let message := (words 16 block).toArray
  let v := state ++ initial
  let v := v.setIfInBounds 12 (v.getD 12 0 ^^^ count.toUInt64)
  let v := v.setIfInBounds 13 (v.getD 13 0 ^^^ (count / 0x10000000000000000).toUInt64)
  let v := if last then v.setIfInBounds 14 (v.getD 14 0 ^^^ 0xFFFFFFFFFFFFFFFF) else v
  let v := schedule.foldl (round message) v
  (Array.range 8).map fun i => state.getD i 0 ^^^ v.getD i 0 ^^^ v.getD (i + 8) 0

/-- Reads the message block by block. The last block is never empty unless the message is. -/
def absorb (state : Array UInt64) (count : Nat) (bytes : List UInt8) : Array UInt64 :=
  if short : bytes.length ≤ 128 then compress state bytes (count + bytes.length) true
  else absorb (compress state (bytes.take 128) (count + 128) false) (count + 128) (bytes.drop 128)
termination_by bytes.length
decreasing_by simp only [List.length_drop]; omega

def wordBytes (w : UInt64) : List UInt8 :=
  (List.range 8).map fun i => (w >>> (8 * i).toUInt64).toUInt8

/-- The 32 bytes of the digest. -/
def sum (bytes : List UInt8) : List UInt8 :=
  let start := initial.setIfInBounds 0 (initial.getD 0 0 ^^^ 0x01010020)
  ((absorb start 0 bytes).toList.take 4).flatMap wordBytes

/-- Bytes as hexadecimal digits. -/
def hex (bytes : List UInt8) : Text := bytes.flatMap fun byte => Text.hexPadded 2 byte.toNat

/-- The digest in hexadecimal. -/
def ofBytes (bytes : List UInt8) : Text := hex (sum bytes)

def ofText (t : Text) : Text := ofBytes t.toBytes

/-- The first eight digits, as used in the addresses of sources. -/
def short (bytes : List UInt8) : Text := (ofBytes bytes).take 8

end CallPlan.Digest
