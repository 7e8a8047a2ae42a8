import V3Aidlc.Canonical
import Mathlib.Tactic.IntervalCases

/-!
SHA-256 of a text in UTF-8, as `hashlib.sha256(text.encode("utf-8")).hexdigest()`
computes it. The development uses one fact about it: a digest is 64 lowercase
hexadecimal characters (`sha256_hex`).
-/
namespace V3Aidlc.Sha256
open V3Aidlc.Canonical

abbrev Word := BitVec 32

/-- The fractional parts of the cube roots of the first 64 primes. -/
def roundConstants : List Word :=
  [0x428a2f98,0x71374491,0xb5c0fbcf,0xe9b5dba5,0x3956c25b,0x59f111f1,0x923f82a4,0xab1c5ed5,
   0xd807aa98,0x12835b01,0x243185be,0x550c7dc3,0x72be5d74,0x80deb1fe,0x9bdc06a7,0xc19bf174,
   0xe49b69c1,0xefbe4786,0x0fc19dc6,0x240ca1cc,0x2de92c6f,0x4a7484aa,0x5cb0a9dc,0x76f988da,
   0x983e5152,0xa831c66d,0xb00327c8,0xbf597fc7,0xc6e00bf3,0xd5a79147,0x06ca6351,0x14292967,
   0x27b70a85,0x2e1b2138,0x4d2c6dfc,0x53380d13,0x650a7354,0x766a0abb,0x81c2c92e,0x92722c85,
   0xa2bfe8a1,0xa81a664b,0xc24b8b70,0xc76c51a3,0xd192e819,0xd6990624,0xf40e3585,0x106aa070,
   0x19a4c116,0x1e376c08,0x2748774c,0x34b0bcb5,0x391c0cb3,0x4ed8aa4a,0x5b9cca4f,0x682e6ff3,
   0x748f82ee,0x78a5636f,0x84c87814,0x8cc70208,0x90befffa,0xa4506ceb,0xbef9a3f7,0xc67178f2]

/-- The eight words of a hash value. -/
structure State where
  a : Word
  b : Word
  c : Word
  d : Word
  e : Word
  f : Word
  g : Word
  h : Word

def initial : State :=
  ⟨0x6a09e667,0xbb67ae85,0x3c6ef372,0xa54ff53a,0x510e527f,0x9b05688c,0x1f83d9ab,0x5be0cd19⟩

/-! ### The message -/

/-- `text.encode("utf-8")`. -/
def encoded (characters : List Char) : List Nat := (characters.flatMap String.utf8EncodeChar).map UInt8.toNat

/-- The bytes, a one bit, zeros, and the length in bits in eight bytes. -/
def padded (bytes : List Nat) : List Nat :=
  let bits := 8 * bytes.length
  bytes ++ [0x80] ++ List.replicate ((119 - bytes.length % 64) % 64) 0 ++
    (List.range 8).map (fun i => (bits >>> (8 * (7 - i))) % 256)

def words : List Nat → List Word
  | p :: q :: r :: s :: rest => BitVec.ofNat 32 (((p * 256 + q) * 256 + r) * 256 + s) :: words rest
  | _ => []

/-! ### Compression -/

def sigma (x : Word) (i j k : Nat) : Word := x.rotateRight i ^^^ x.rotateRight j ^^^ (x >>> k)
def bigSigma (x : Word) (i j k : Nat) : Word := x.rotateRight i ^^^ x.rotateRight j ^^^ x.rotateRight k

/-- The message schedule, latest word first. -/
def schedule : (rounds : Nat) → List Word → List Word
  | 0,w => w
  | n+1,w =>
    let next := sigma (w.getD 1 0) 17 19 10 + w.getD 6 0 + sigma (w.getD 14 0) 7 18 3 + w.getD 15 0
    schedule n (next :: w)

def round (s : State) (kw : Word × Word) : State :=
  let choice := (s.e &&& s.f) ^^^ (~~~s.e &&& s.g)
  let majority := (s.a &&& s.b) ^^^ (s.a &&& s.c) ^^^ (s.b &&& s.c)
  let first := s.h + bigSigma s.e 6 11 25 + choice + kw.1 + kw.2
  let second := bigSigma s.a 2 13 22 + majority
  ⟨first + second,s.a,s.b,s.c,s.d + first,s.e,s.f,s.g⟩

def compress (s : State) (block : List Word) : State :=
  let t := (roundConstants.zip (schedule 48 block.reverse).reverse).foldl round s
  ⟨s.a + t.a,s.b + t.b,s.c + t.c,s.d + t.d,s.e + t.e,s.f + t.f,s.g + t.g,s.h + t.h⟩

/-- The blocks of sixteen words, at most `n` of them. -/
def blocks : (n : Nat) → List Word → List (List Word)
  | 0,_ => []
  | n+1,w => if w.isEmpty then [] else w.take 16 :: blocks n (w.drop 16)

/-! ### The digest -/

def hexWord (w : Word) : List Char :=
  (List.range 8).map (fun i => hexDigit ((w.toNat >>> (4 * (7 - i))) % 16))

def hexdigest (s : State) : List Char := [s.a,s.b,s.c,s.d,s.e,s.f,s.g,s.h].flatMap hexWord

def hashed (bytes : List Nat) : List Char :=
  let message := words (padded bytes)
  hexdigest ((blocks message.length message).foldl compress initial)

def sha256 (text : String) : String := String.ofList (hashed (encoded text.toList))

/-- 64 lowercase hexadecimal characters. -/
def isHexDigest (s : String) : Bool :=
  s.length = 64 ∧ s.toList.all (fun c => ('0' ≤ c ∧ c ≤ '9') ∨ ('a' ≤ c ∧ c ≤ 'f'))

private theorem hexDigit_hex {n : Nat} (small : n < 16) :
    ('0' ≤ hexDigit n ∧ hexDigit n ≤ '9') ∨ ('a' ≤ hexDigit n ∧ hexDigit n ≤ 'f') := by
  interval_cases n <;> decide

theorem hexWord_hex {w : Word} {c : Char} (member : c ∈ hexWord w) : ('0' ≤ c ∧ c ≤ '9') ∨ ('a' ≤ c ∧ c ≤ 'f') := by
  obtain ⟨i,_,rfl⟩ := List.mem_map.mp member
  exact hexDigit_hex (Nat.mod_lt _ (by decide))

theorem sha256_hex (text : String) : isHexDigest (sha256 text) = true := by
  unfold sha256 isHexDigest
  simp only [String.length_ofList,String.toList_ofList,decide_eq_true_eq,List.all_eq_true]
  refine ⟨by simp [hashed,hexdigest,hexWord],?_⟩
  intro c member
  obtain ⟨w,_,inside⟩ := List.mem_flatMap.mp member
  exact hexWord_hex inside

example : sha256 "abc" = "ba7816bf8f01cfea414140de5dae2223b00361a396177a9cb410ff61f20015ad" := by decide +kernel

end V3Aidlc.Sha256
