import Mathlib.Data.List.Basic

/-!
UTF-8 with replacement: bytes that are no encoding are read as U+FFFD, one for each maximal part of
an encoding and one for each byte that starts none. An encoded text is read back (`decode_encode`) and
is as long as its text (`length_encode`); other bytes may read as a longer text.
-/
namespace V3Aidlc.Utf8

def encode (text : String) : List UInt8 := text.toList.flatMap String.utf8EncodeChar

/-- An encoding that has begun: how many bytes it still needs, what it has of the code point, and
    the range of its next byte. -/
structure Pending where
  needed : Nat
  codePoint : Nat
  lower : Nat := 0x80
  upper : Nat := 0xBF

def replacement : Char := Char.ofNat 0xFFFD

/-- What the first byte of an encoding gives. -/
def open_byte (b : Nat) : List Char × Option Pending :=
  if b < 0x80 then ([Char.ofNat b],none)
  else if 0xC2 ≤ b ∧ b ≤ 0xDF then ([],some ⟨1,b % 0x20,0x80,0xBF⟩)
  else if 0xE0 ≤ b ∧ b ≤ 0xEF then
    ([],some ⟨2,b % 0x10,if b = 0xE0 then 0xA0 else 0x80,if b = 0xED then 0x9F else 0xBF⟩)
  else if 0xF0 ≤ b ∧ b ≤ 0xF4 then
    ([],some ⟨3,b % 8,if b = 0xF0 then 0x90 else 0x80,if b = 0xF4 then 0x8F else 0xBF⟩)
  else ([replacement],none)

/-- One byte more. A byte that does not continue what has begun may begin anew. -/
def feed (b : Nat) : Option Pending → List Char × Option Pending
  | none => open_byte b
  | some p =>
    if p.lower ≤ b ∧ b ≤ p.upper then
      let codePoint := p.codePoint * 64 + b % 64
      if p.needed = 1 then ([Char.ofNat codePoint],none) else
        ([],some { needed := p.needed - 1, codePoint := codePoint })
    else (replacement :: (open_byte b).1,(open_byte b).2)

def decode_from : Option Pending → List UInt8 → List Char
  | none,[] => []
  | some _,[] => [replacement]
  | pending,b :: rest => (feed b.toNat pending).1 ++ decode_from (feed b.toNat pending).2 rest

def decode (bytes : List UInt8) : String := String.ofList (decode_from none bytes)

theorem decode_from_cons (pending : Option Pending) (b : UInt8) (rest : List UInt8) :
    decode_from pending (b :: rest) = (feed b.toNat pending).1 ++ decode_from (feed b.toNat pending).2 rest := by
  cases pending <;> rfl

theorem toNat_byte {n : Nat} (small : n < 256) : (UInt8.ofNat n).toNat = n := by
  rw [UInt8.toNat_ofNat']
  exact Nat.mod_eq_of_lt small

theorem open_one {b : Nat} (range : b < 0x80) : open_byte b = ([Char.ofNat b],none) := by
  unfold open_byte
  rw [if_pos range]

theorem open_two {b : Nat} (range : 0xC2 ≤ b ∧ b ≤ 0xDF) : open_byte b = ([],some ⟨1,b % 0x20,0x80,0xBF⟩) := by
  unfold open_byte
  rw [if_neg (by omega),if_pos range]

theorem open_three {b : Nat} (range : 0xE0 ≤ b ∧ b ≤ 0xEF) : open_byte b =
    ([],some ⟨2,b % 0x10,if b = 0xE0 then 0xA0 else 0x80,if b = 0xED then 0x9F else 0xBF⟩) := by
  unfold open_byte
  rw [if_neg (by omega),if_neg (by omega),if_pos range]

theorem open_four {b : Nat} (range : 0xF0 ≤ b ∧ b ≤ 0xF4) : open_byte b =
    ([],some ⟨3,b % 8,if b = 0xF0 then 0x90 else 0x80,if b = 0xF4 then 0x8F else 0xBF⟩) := by
  unfold open_byte
  rw [if_neg (by omega),if_neg (by omega),if_neg (by omega),if_pos range]

/-- A byte that continues an encoding without ending it. -/
theorem decode_more {p : Pending} {n : Nat} (inside : p.lower ≤ n ∧ n ≤ p.upper) (small : n < 256)
    (more : p.needed ≠ 1) (rest : List UInt8) : decode_from (some p) (UInt8.ofNat n :: rest) =
      decode_from (some ⟨p.needed - 1,p.codePoint * 64 + n % 64,0x80,0xBF⟩) rest := by
  rw [decode_from_cons,toNat_byte small]
  simp [feed,inside,more]

/-- A byte that ends an encoding. -/
theorem decode_last {p : Pending} {n : Nat} (inside : p.lower ≤ n ∧ n ≤ p.upper) (small : n < 256)
    (last : p.needed = 1) (rest : List UInt8) : decode_from (some p) (UInt8.ofNat n :: rest) =
      Char.ofNat (p.codePoint * 64 + n % 64) :: decode_from none rest := by
  rw [decode_from_cons,toNat_byte small]
  simp [feed,inside,last]

/-- The first byte of an encoding of several. -/
theorem decode_open {p : Pending} {n : Nat} (opened : open_byte n = ([],some p)) (small : n < 256) (rest : List UInt8) :
    decode_from none (UInt8.ofNat n :: rest) = decode_from (some p) rest := by
  rw [decode_from_cons,toNat_byte small]
  simp [feed,opened]

/-- The bytes of a code point. -/
def spell (v : Nat) : List UInt8 :=
  if v ≤ 0x7F then [UInt8.ofNat v]
  else if v ≤ 0x7FF then [UInt8.ofNat (v / 64 % 0x20 + 0xC0),UInt8.ofNat (v % 0x40 + 0x80)]
  else if v ≤ 0xFFFF then
    [UInt8.ofNat (v / 4096 % 0x10 + 0xE0),UInt8.ofNat (v / 64 % 0x40 + 0x80),UInt8.ofNat (v % 0x40 + 0x80)]
  else [UInt8.ofNat (v / 262144 % 0x08 + 0xF0),UInt8.ofNat (v / 4096 % 0x40 + 0x80),UInt8.ofNat (v / 64 % 0x40 + 0x80),
    UInt8.ofNat (v % 0x40 + 0x80)]

theorem utf8EncodeChar_spell (c : Char) : String.utf8EncodeChar c = spell c.toNat := rfl

/-- Encodings have one to four bytes, by the size of the code point; the bounds of the second byte
    are those of scalar values. -/
theorem decode_spell {v : Nat} (scalar : v < 0xD800 ∨ 0xDFFF < v ∧ v < 0x110000) (rest : List UInt8) :
    decode_from none (spell v ++ rest) = Char.ofNat v :: decode_from none rest := by
  unfold spell
  by_cases one : v ≤ 0x7F
  · rw [if_pos one,List.cons_append,List.nil_append,decode_from_cons,toNat_byte (by omega)]
    show (open_byte v).1 ++ decode_from (open_byte v).2 rest = _
    rw [open_one (by omega)]
    rfl
  rw [if_neg one]
  by_cases two : v ≤ 0x7FF
  · rw [if_pos two]
    simp only [List.cons_append,List.nil_append]
    rw [decode_open (open_two (by omega)) (by omega),decode_last (by dsimp only; omega) (by omega) rfl]
    have value : (v / 64 % 0x20 + 0xC0) % 0x20 * 64 + (v % 0x40 + 0x80) % 64 = v := by omega
    rw [value]
  rw [if_neg two]
  by_cases three : v ≤ 0xFFFF
  · rw [if_pos three]
    simp only [List.cons_append,List.nil_append]
    rw [decode_open (open_three (by omega)) (by omega),
      decode_more (by dsimp only; split <;> split <;> omega) (by omega) (by simp),
      decode_last (by dsimp only; omega) (by omega) rfl]
    have value : ((v / 4096 % 0x10 + 0xE0) % 0x10 * 64 + (v / 64 % 0x40 + 0x80) % 64) * 64 + (v % 0x40 + 0x80) % 64 =
        v := by
      omega
    rw [value]
  · rw [if_neg three]
    simp only [List.cons_append,List.nil_append]
    rw [decode_open (open_four (by omega)) (by omega),
      decode_more (by dsimp only; split <;> split <;> omega) (by omega) (by simp),
      decode_more (by dsimp only; omega) (by omega) (by simp),decode_last (by dsimp only; omega) (by omega) rfl]
    have value : (((v / 262144 % 0x08 + 0xF0) % 8 * 64 + (v / 4096 % 0x40 + 0x80) % 64) * 64 +
        (v / 64 % 0x40 + 0x80) % 64) * 64 + (v % 0x40 + 0x80) % 64 = v := by omega
    rw [value]

theorem decode_char (c : Char) (rest : List UInt8) :
    decode_from none (String.utf8EncodeChar c ++ rest) = c :: decode_from none rest := by
  have scalar : c.toNat < 0xD800 ∨ 0xDFFF < c.toNat ∧ c.toNat < 0x110000 := c.valid
  rw [utf8EncodeChar_spell,decode_spell scalar,Char.ofNat_toNat]

/-- An encoded text is read back. -/
theorem decode_encode (text : String) : decode (encode text) = text := by
  have all : ∀ cs : List Char, decode_from none (cs.flatMap String.utf8EncodeChar) = cs := by
    intro cs
    induction cs with
    | nil => rfl
    | cons c cs ih => rw [List.flatMap_cons,decode_char,ih]
  unfold decode encode
  rw [all,String.ofList_toList]

theorem length_encode (text : String) : (encode text).length = text.utf8ByteSize := by
  have bytes : text.utf8ByteSize = (String.ofList text.toList).toByteArray.size := by
    rw [String.ofList_toList]
    rfl
  rw [bytes]
  exact List.size_toByteArray.symm

end V3Aidlc.Utf8
