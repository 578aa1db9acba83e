import Ngpool.Go

/-!
# Double SHA-256 and Block Hashes

The job builder hashes coinbases, merkle nodes and headers with `sha256d` (SHA-256 applied
twice), through the streaming hasher of `github.com/seehuhn/sha256d`, and reads a header's
proof-of-work digest as a number with btcd's `chainhash.NewHash` and `blockchain.HashToBig`.

SHA-256 is written out as FIPS 180-4 specifies it, over natural-number words reduced modulo
`2^32`, so that every function of the model is executable. No property of the compression
function is used anywhere: the later modules only need that a digest is 32 bytes long.

The hasher is modelled by its buffer: `write` appends, `sum` hashes the buffer without
clearing it (Go's `hash.Hash.Sum`), `reset` clears it. Whether a caller resets between two
sums is exactly what separates the Equihash root announced to miners from the one the
verifier recomputes (`Ngpool.Stratum`).
-/

namespace Ngpool

namespace Sha256

/-- Rotation right of a 32-bit word. -/
def rotr (n x : Nat) : Nat := (x >>> n ||| x <<< (32 - n)) % 2 ^ 32

/-- The four word functions `σ₀, σ₁, Σ₀, Σ₁` of the message schedule and the rounds. -/
def ssig0 (x : Nat) : Nat := rotr 7 x ^^^ rotr 18 x ^^^ x >>> 3
def ssig1 (x : Nat) : Nat := rotr 17 x ^^^ rotr 19 x ^^^ x >>> 10
def bsig0 (x : Nat) : Nat := rotr 2 x ^^^ rotr 13 x ^^^ rotr 22 x
def bsig1 (x : Nat) : Nat := rotr 6 x ^^^ rotr 11 x ^^^ rotr 25 x

/-- `Ch` and `Maj`; `x ^^^ (2^32 - 1)` is the complement of a 32-bit word. -/
def ch (x y z : Nat) : Nat := (x &&& y) ^^^ ((x ^^^ (2 ^ 32 - 1)) &&& z)
def maj (x y z : Nat) : Nat := (x &&& y) ^^^ (x &&& z) ^^^ (y &&& z)

/-- The round constants `K₀ … K₆₃`. -/
def roundConstants : List Nat := [
  0x428a2f98, 0x71374491, 0xb5c0fbcf, 0xe9b5dba5, 0x3956c25b, 0x59f111f1, 0x923f82a4, 0xab1c5ed5,
  0xd807aa98, 0x12835b01, 0x243185be, 0x550c7dc3, 0x72be5d74, 0x80deb1fe, 0x9bdc06a7, 0xc19bf174,
  0xe49b69c1, 0xefbe4786, 0x0fc19dc6, 0x240ca1cc, 0x2de92c6f, 0x4a7484aa, 0x5cb0a9dc, 0x76f988da,
  0x983e5152, 0xa831c66d, 0xb00327c8, 0xbf597fc7, 0xc6e00bf3, 0xd5a79147, 0x06ca6351, 0x14292967,
  0x27b70a85, 0x2e1b2138, 0x4d2c6dfc, 0x53380d13, 0x650a7354, 0x766a0abb, 0x81c2c92e, 0x92722c85,
  0xa2bfe8a1, 0xa81a664b, 0xc24b8b70, 0xc76c51a3, 0xd192e819, 0xd6990624, 0xf40e3585, 0x106aa070,
  0x19a4c116, 0x1e376c08, 0x2748774c, 0x34b0bcb5, 0x391c0cb3, 0x4ed8aa4a, 0x5b9cca4f, 0x682e6ff3,
  0x748f82ee, 0x78a5636f, 0x84c87814, 0x8cc70208, 0x90befffa, 0xa4506ceb, 0xbef9a3f7, 0xc67178f2]

/-- The eight working variables, which are also the chaining value between blocks. -/
structure State where
  a : Nat
  b : Nat
  c : Nat
  d : Nat
  e : Nat
  f : Nat
  g : Nat
  h : Nat

/-- The initial hash value `H⁽⁰⁾`. -/
def initial : State :=
  ⟨0x6a09e667, 0xbb67ae85, 0x3c6ef372, 0xa54ff53a, 0x510e527f, 0x9b05688c, 0x1f83d9ab,
    0x5be0cd19⟩

/-- The big-endian word of the first four bytes. -/
def beWord (bs : Bytes) : Nat :=
  bs.take 4 |>.foldl (fun acc x => acc * 256 + x.toNat) 0

/-- The `n` big-endian bytes of a word. -/
def beBytes (n x : Nat) : Bytes := (List.range n).reverse.map fun i => UInt8.ofNat (x >>> (8 * i))

@[simp] theorem length_beBytes (n x : Nat) : (beBytes n x).length = n := by simp [beBytes]

/-- The first `n` big-endian words of a block. -/
def words : Nat → Bytes → List Nat
  | 0, _ => []
  | n + 1, bs => beWord bs :: words n (bs.drop 4)

/-- The message schedule `W₀ … W₆₃`: emits the oldest of a sliding window of sixteen words
and appends the next one, `σ₁(W_{t-2}) + W_{t-7} + σ₀(W_{t-15}) + W_{t-16}`. -/
def schedule : Nat → List Nat → List Nat
  | 0, w => w
  | n + 1, w =>
    let next := (ssig1 (w.getD 14 0) + w.getD 9 0 + ssig0 (w.getD 1 0) + w.getD 0 0) % 2 ^ 32
    w.headD 0 :: schedule n (w.tail ++ [next])

/-- One round of the compression function, with round constant `k` and schedule word `w`. -/
def round (s : State) (k w : Nat) : State :=
  let t1 := (s.h + bsig1 s.e + ch s.e s.f s.g + k + w) % 2 ^ 32
  let t2 := (bsig0 s.a + maj s.a s.b s.c) % 2 ^ 32
  ⟨(t1 + t2) % 2 ^ 32, s.a, s.b, s.c, (s.d + t1) % 2 ^ 32, s.e, s.f, s.g⟩

/-- The compression function on one 64-byte block. -/
def compress (s : State) (block : Bytes) : State :=
  let r := (roundConstants.zip (schedule 48 (words 16 block))).foldl
    (fun r kw => round r kw.1 kw.2) s
  ⟨(s.a + r.a) % 2 ^ 32, (s.b + r.b) % 2 ^ 32, (s.c + r.c) % 2 ^ 32, (s.d + r.d) % 2 ^ 32,
    (s.e + r.e) % 2 ^ 32, (s.f + r.f) % 2 ^ 32, (s.g + r.g) % 2 ^ 32, (s.h + r.h) % 2 ^ 32⟩

/-- Padding: a one bit, zeros up to 56 bytes modulo 64, and the bit length as 8 bytes. -/
def pad (m : Bytes) : Bytes :=
  m ++ 0x80 :: List.replicate ((119 - m.length % 64) % 64) 0 ++ beBytes 8 (8 * m.length)

/-- Compression over the first `n` blocks. -/
def blocks : Nat → State → Bytes → State
  | 0, s, _ => s
  | n + 1, s, bs => blocks n (compress s (bs.take 64)) (bs.drop 64)

/-- The digest: the chaining value as 32 big-endian bytes. -/
def State.digest (s : State) : Bytes :=
  [s.a, s.b, s.c, s.d, s.e, s.f, s.g, s.h].flatMap (beBytes 4)

@[simp] theorem length_digest (s : State) : s.digest.length = 32 := by simp [State.digest]

end Sha256

open Sha256 in
/-- SHA-256. -/
def sha256 (m : Bytes) : Bytes := (blocks ((pad m).length / 64) initial (pad m)).digest

/-- `sha256d`: SHA-256 applied twice. -/
def sha256d (m : Bytes) : Bytes := sha256 (sha256 m)

@[simp] theorem length_sha256 (m : Bytes) : (sha256 m).length = 32 := Sha256.length_digest _

@[simp] theorem length_sha256d (m : Bytes) : (sha256d m).length = 32 := length_sha256 _

/-- The test vector of the empty message. -/
example : sha256 [] = [0xe3, 0xb0, 0xc4, 0x42, 0x98, 0xfc, 0x1c, 0x14, 0x9a, 0xfb, 0xf4, 0xc8,
    0x99, 0x6f, 0xb9, 0x24, 0x27, 0xae, 0x41, 0xe4, 0x64, 0x9b, 0x93, 0x4c, 0xa4, 0x95, 0x99,
    0x1b, 0x78, 0x52, 0xb8, 0x55] := by
  decide

/-! ### The streaming hasher -/

/-- The hasher `sha256d.New()`, by the bytes written since it was created or reset. -/
structure Hasher where
  buf : Bytes

/-- `sha256d.New()`. -/
def Hasher.new : Hasher := ⟨[]⟩

/-- `hasher.Write(b)`. -/
def Hasher.write (h : Hasher) (b : Bytes) : Hasher := ⟨h.buf ++ b⟩

/-- `hasher.Sum(nil)`: the digest of everything written, leaving the hasher unchanged. -/
def Hasher.sum (h : Hasher) : Bytes := sha256d h.buf

/-- `hasher.Reset()`. -/
def Hasher.reset (_ : Hasher) : Hasher := Hasher.new

@[simp] theorem Hasher.write_buf (h : Hasher) (b : Bytes) : (h.write b).buf = h.buf ++ b := rfl
@[simp] theorem Hasher.sum_eq (h : Hasher) : h.sum = sha256d h.buf := rfl
@[simp] theorem Hasher.reset_eq (h : Hasher) : h.reset = Hasher.new := rfl
@[simp] theorem Hasher.new_buf : Hasher.new.buf = [] := rfl

/-! ### Reading a digest as a number -/

/-- `chainhash.NewHash`: a digest must be exactly 32 bytes. -/
def newHash (b : Bytes) : Except String Bytes :=
  if b.length = 32 then .ok b
  else .error ("invalid hash length of " ++ toString b.length ++ ", want 32")

@[simp] theorem newHash_sha256d (m : Bytes) : newHash (sha256d m) = .ok (sha256d m) := by
  simp [newHash]

/-- `blockchain.HashToBig`: a hash is stored little-endian, so its bytes are reversed and read
as a big-endian integer — the little-endian value of the bytes. -/
def hashToBig (h : Bytes) : Nat := h.foldr (fun b acc => b.toNat + 256 * acc) 0

theorem hashToBig_lt (h : Bytes) : hashToBig h < 2 ^ (8 * h.length) := by
  induction h with
  | nil => simp [hashToBig]
  | cons b bs ih =>
    have hb : b.toNat < 256 := b.toNat_lt_size
    have : hashToBig (b :: bs) = b.toNat + 256 * hashToBig bs := rfl
    rw [this, List.length_cons, Nat.mul_succ, pow_add]
    omega

/-- A 32-byte digest is below `2^256`, the bound every proof-of-work integer satisfies. -/
theorem hashToBig_lt_of_length {h : Bytes} (hl : h.length = 32) : hashToBig h < 2 ^ 256 := by
  simpa [hl] using hashToBig_lt h

/-- Every `sha256d` proof-of-work integer is below `2^256`. -/
theorem hashToBig_sha256d_lt (m : Bytes) : (hashToBig (sha256d m) : Int) < 2 ^ 256 := by
  exact_mod_cast hashToBig_lt_of_length (length_sha256d m)

end Ngpool
