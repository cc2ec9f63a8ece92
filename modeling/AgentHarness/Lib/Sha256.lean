import Mathlib.Data.List.Basic
import Mathlib.Algebra.Group.Nat.Defs

/-!
SHA-256 over byte lists. Words are natural numbers below `2 ^ 32`.
-/

namespace Sha256

def word (n : Nat) : Nat := n % 2 ^ 32

def rotateRight (n k : Nat) : Nat :=
  word ((n >>> k) ||| (n <<< (32 - k)))

def initialHash : List Nat := [
  0x6a09e667, 0xbb67ae85, 0x3c6ef372, 0xa54ff53a, 0x510e527f, 0x9b05688c,
  0x1f83d9ab, 0x5be0cd19]

def roundConstants : List Nat := [
  0x428a2f98, 0x71374491, 0xb5c0fbcf, 0xe9b5dba5, 0x3956c25b, 0x59f111f1,
  0x923f82a4, 0xab1c5ed5, 0xd807aa98, 0x12835b01, 0x243185be, 0x550c7dc3,
  0x72be5d74, 0x80deb1fe, 0x9bdc06a7, 0xc19bf174, 0xe49b69c1, 0xefbe4786,
  0x0fc19dc6, 0x240ca1cc, 0x2de92c6f, 0x4a7484aa, 0x5cb0a9dc, 0x76f988da,
  0x983e5152, 0xa831c66d, 0xb00327c8, 0xbf597fc7, 0xc6e00bf3, 0xd5a79147,
  0x06ca6351, 0x14292967, 0x27b70a85, 0x2e1b2138, 0x4d2c6dfc, 0x53380d13,
  0x650a7354, 0x766a0abb, 0x81c2c92e, 0x92722c85, 0xa2bfe8a1, 0xa81a664b,
  0xc24b8b70, 0xc76c51a3, 0xd192e819, 0xd6990624, 0xf40e3585, 0x106aa070,
  0x19a4c116, 0x1e376c08, 0x2748774c, 0x34b0bcb5, 0x391c0cb3, 0x4ed8aa4a,
  0x5b9cca4f, 0x682e6ff3, 0x748f82ee, 0x78a5636f, 0x84c87814, 0x8cc70208,
  0x90befffa, 0xa4506ceb, 0xbef9a3f7, 0xc67178f2]

def beBytes (count n : Nat) : List Nat :=
  ((List.range count).map fun i => n >>> (8 * i) % 256).reverse

def padded (message : List Nat) : List Nat :=
  let zeros := (119 - message.length % 64) % 64
  message ++ [0x80] ++ List.replicate zeros 0 ++ beBytes 8 (8 * message.length)

def words : List Nat → List Nat
  | a :: b :: c :: d :: rest => (((a * 256 + b) * 256 + c) * 256 + d) :: words rest
  | _ => []

-- the schedule is built backwards: the newest word is at the head
def extendSchedule : Nat → List Nat → List Nat
  | 0, schedule => schedule
  | count + 1, schedule =>
    let w15 := schedule.getD 14 0
    let w2 := schedule.getD 1 0
    let s0 := rotateRight w15 7 ^^^ rotateRight w15 18 ^^^ (w15 >>> 3)
    let s1 := rotateRight w2 17 ^^^ rotateRight w2 19 ^^^ (w2 >>> 10)
    let next := word (schedule.getD 15 0 + s0 + schedule.getD 6 0 + s1)
    extendSchedule count (next :: schedule)

structure Registers where
  a : Nat
  b : Nat
  c : Nat
  d : Nat
  e : Nat
  f : Nat
  g : Nat
  h : Nat

def round (r : Registers) (input : Nat × Nat) : Registers :=
  let s1 := rotateRight r.e 6 ^^^ rotateRight r.e 11 ^^^ rotateRight r.e 25
  let choice := (r.e &&& r.f) ^^^ ((2 ^ 32 - 1 - r.e) &&& r.g)
  let temp1 := r.h + s1 + choice + input.1 + input.2
  let s0 := rotateRight r.a 2 ^^^ rotateRight r.a 13 ^^^ rotateRight r.a 22
  let majority := (r.a &&& r.b) ^^^ (r.a &&& r.c) ^^^ (r.b &&& r.c)
  { a := word (temp1 + s0 + majority)
    b := r.a
    c := r.b
    d := r.c
    e := word (r.d + temp1)
    f := r.e
    g := r.f
    h := r.g }

def compress (hash : List Nat) (block : List Nat) : List Nat :=
  let schedule := (extendSchedule 48 block.reverse).reverse
  let start : Registers := {
    a := hash.getD 0 0
    b := hash.getD 1 0
    c := hash.getD 2 0
    d := hash.getD 3 0
    e := hash.getD 4 0
    f := hash.getD 5 0
    g := hash.getD 6 0
    h := hash.getD 7 0 }
  let r := (roundConstants.zip schedule).foldl round start
  List.zipWith (fun x y => word (x + y)) hash [r.a, r.b, r.c, r.d, r.e, r.f, r.g, r.h]

def blocks : Nat → List Nat → List (List Nat)
  | 0, _ => []
  | count + 1, words => words.take 16 :: blocks count (words.drop 16)

def hashWords (message : List Nat) : List Nat :=
  let input := words (padded message)
  (blocks (input.length / 16) input).foldl compress initialHash

def digest (message : List UInt8) : List UInt8 :=
  (hashWords (message.map UInt8.toNat)).flatMap fun w => (beBytes 4 w).map UInt8.ofNat

theorem length_compress {hash : List Nat} (block : List Nat) (h : hash.length = 8)
    : (compress hash block).length = 8 := by
  unfold compress
  simp [h]

theorem length_hashWords (message : List Nat) : (hashWords message).length = 8 := by
  unfold hashWords
  dsimp only
  generalize blocks _ _ = input
  have hinit : initialHash.length = 8 := by decide
  generalize initialHash = hash at hinit
  induction input generalizing hash with
  | nil => exact hinit
  | cons block input ih =>
    rw [List.foldl_cons]
    apply ih
    exact length_compress block hinit

theorem length_digest (message : List UInt8) : (digest message).length = 32 := by
  unfold digest
  have hbytes : ∀ w ∈ hashWords (message.map UInt8.toNat),
      ((beBytes 4 w).map UInt8.ofNat).length = 4 := by
    intro w _
    simp [beBytes]
  rw [List.length_flatMap, List.map_congr_left hbytes]
  simp [length_hashWords]

example : digest [97, 98, 99] = [
    0xba, 0x78, 0x16, 0xbf, 0x8f, 0x01, 0xcf, 0xea, 0x41, 0x41, 0x40, 0xde, 0x5d, 0xae, 0x22, 0x23,
    0xb0, 0x03, 0x61, 0xa3, 0x96, 0x17, 0x7a, 0x9c, 0xb4, 0x10, 0xff, 0x61, 0xf2, 0x00, 0x15, 0xad]
    := by
  decide +kernel

end Sha256
