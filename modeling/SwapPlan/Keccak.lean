import SwapPlan.Bytes
/-!
# The Keccak-256 hash

The sponge over twenty-five lanes of 64 bits with a rate of 136 bytes; messages are padded by a one
bit, zeros and a one bit.  Lane `x + 5 * y` is the lane in column `x` of row `y`.
-/
set_option autoImplicit false

namespace SwapPlan.Keccak

abbrev Lanes := List UInt64

def lane (s : Lanes) (i : Nat) : UInt64 := s.getD i 0

def rotate (v : UInt64) (n : Nat) : UInt64 :=
  if n = 0 then v else (v <<< UInt64.ofNat n) ||| (v >>> UInt64.ofNat (64 - n))

def offsets : List Nat :=
  [0, 1, 62, 28, 27, 36, 44, 6, 55, 20, 3, 10, 43, 25, 39, 41, 45, 15, 21, 8, 18, 2, 61, 56, 14]

def constants : List UInt64 :=
  [0x0000000000000001, 0x0000000000008082, 0x800000000000808A, 0x8000000080008000,
    0x000000000000808B, 0x0000000080000001, 0x8000000080008081, 0x8000000000008009,
    0x000000000000008A, 0x0000000000000088, 0x0000000080008009, 0x000000008000000A,
    0x000000008000808B, 0x800000000000008B, 0x8000000000008089, 0x8000000000008003,
    0x8000000000008002, 0x8000000000000080, 0x000000000000800A, 0x800000008000000A,
    0x8000000080008081, 0x8000000000008080, 0x0000000080000001, 0x8000000080008008]

def theta (s : Lanes) : Lanes :=
  let parity := (List.range 5).map fun x =>
    lane s x ^^^ lane s (x + 5) ^^^ lane s (x + 10) ^^^ lane s (x + 15) ^^^ lane s (x + 20)
  let change := (List.range 5).map fun x =>
    lane parity ((x + 4) % 5) ^^^ rotate (lane parity ((x + 1) % 5)) 1
  (List.range 25).map fun i => lane s i ^^^ lane change (i % 5)

def rhoPi (s : Lanes) : Lanes :=
  (List.range 25).map fun i =>
    let source := (i % 5 + 3 * (i / 5)) % 5 + 5 * (i % 5)
    rotate (lane s source) (offsets.getD source 0)

def chi (s : Lanes) : Lanes :=
  (List.range 25).map fun i =>
    let row := 5 * (i / 5)
    lane s i ^^^ (~~~lane s (row + (i + 1) % 5) &&& lane s (row + (i + 2) % 5))

def iota (c : UInt64) : Lanes → Lanes
  | [] => []
  | first :: rest => (first ^^^ c) :: rest

def permute (s : Lanes) : Lanes :=
  constants.foldl (fun s c => iota c (chi (rhoPi (theta s)))) s

def rate : Nat := 136

def padding (length : Nat) : Bytes :=
  match rate - length % rate with
  | 1 => [0x81]
  | n => 0x01 :: List.replicate (n - 2) 0x00 ++ [0x80]

def laneOf (bs : Bytes) : UInt64 := UInt64.ofNat (ofBigEndian (bs.take 8).reverse)

def mix : Lanes → Bytes → Lanes
  | [], _ => []
  | v :: rest, [] => v :: rest
  | v :: rest, b :: bs => (v ^^^ laneOf (b :: bs)) :: mix rest ((b :: bs).drop 8)

def absorb : (blocks : Nat) → Lanes → Bytes → Lanes
  | 0, s, _ => s
  | blocks + 1, s, bs => absorb blocks (permute (mix s (bs.take rate))) (bs.drop rate)

def laneBytes (v : UInt64) : Bytes := (bigEndian 8 v.toNat).reverse

def hash (message : Bytes) : Bytes :=
  let s := absorb (message.length / rate + 1) (List.replicate 25 0)
    (message ++ padding message.length)
  (List.range 4).flatMap fun i => laneBytes (lane s i)

@[simp] theorem length_hash (message : Bytes) : (hash message).length = 32 := by
  simp [hash, laneBytes, List.range, List.range.loop]

end SwapPlan.Keccak
