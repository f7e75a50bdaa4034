/-!
# Fixed-width words

Every number on the wire is eight bytes.  The magic that opens a header is written most
significant byte first; all other fields are written least significant byte first.  Both
orders are built from one digit expansion over the naturals, so their laws reduce to it:
`value_digits` and `digits_value` say that expansion and evaluation undo each other.
-/

namespace FileConduit

abbrev Bytes := List UInt8

/-- Length of the longest buffer that can be made. -/
def Bytes.maxLength : Nat := 0x7FFFFFFFFFFFFFFF

namespace Word

/-- The low `width` base-256 digits of a number, least significant first. -/
def digits : Nat → Nat → Bytes
  | 0, _ => []
  | width + 1, n => UInt8.ofNat n :: digits width (n / 256)

/-- The number whose base-256 digits, least significant first, are given. -/
def value : Bytes → Nat
  | [] => 0
  | byte :: rest => byte.toNat + 256 * value rest

def size : Nat := 8

def littleEndian (word : UInt64) : Bytes :=
  digits size word.toNat

def bigEndian (word : UInt64) : Bytes :=
  (littleEndian word).reverse

def ofLittleEndian (bytes : Bytes) : UInt64 :=
  UInt64.ofNat (value bytes)

def ofBigEndian (bytes : Bytes) : UInt64 :=
  ofLittleEndian bytes.reverse

@[simp] theorem length_digits (width n : Nat) : (digits width n).length = width := by
  induction width generalizing n with
  | zero => rfl
  | succ width ih => simp [digits, ih]

theorem value_lt (bytes : Bytes) : value bytes < Nat.pow 256 bytes.length := by
  induction bytes with
  | nil => exact Nat.zero_lt_one
  | cons byte rest ih =>
      have hbyte : byte.toNat < 256 := byte.toNat_lt
      have hpow : Nat.pow 256 (rest.length + 1) = Nat.pow 256 rest.length * 256 := rfl
      rw [value, List.length_cons, hpow]
      omega

theorem value_digits (width n : Nat) : value (digits width n) = n % Nat.pow 256 width := by
  induction width generalizing n with
  | zero => exact (Nat.mod_one n).symm
  | succ width ih =>
      have hlow : (UInt8.ofNat n).toNat = n % 256 := by simp
      have hpow : Nat.pow 256 (width + 1) = 256 * Nat.pow 256 width := Nat.mul_comm _ _
      rw [digits, value, ih, hlow, hpow, Nat.mod_mul]

theorem digits_value (bytes : Bytes) : digits bytes.length (value bytes) = bytes := by
  induction bytes with
  | nil => rfl
  | cons byte rest ih =>
      have hbyte : byte.toNat < 256 := byte.toNat_lt
      have hhigh : (byte.toNat + 256 * value rest) / 256 = value rest := by omega
      simp only [List.length_cons, value, digits, hhigh, ih, List.cons.injEq, and_true]
      apply UInt8.toNat_inj.mp
      simp only [UInt8.toNat_ofNat']
      omega

@[simp] theorem length_littleEndian (word : UInt64) : (littleEndian word).length = 8 := by
  simp [littleEndian, size]

@[simp] theorem length_bigEndian (word : UInt64) : (bigEndian word).length = 8 := by
  simp [bigEndian]

@[simp] theorem ofLittleEndian_littleEndian (word : UInt64) :
    ofLittleEndian (littleEndian word) = word := by
  have hword : word.toNat < Nat.pow 256 size := word.toNat_lt
  rw [ofLittleEndian, littleEndian, value_digits, Nat.mod_eq_of_lt hword, UInt64.ofNat_toNat]

theorem littleEndian_ofLittleEndian {bytes : Bytes} (hlength : bytes.length = 8) :
    littleEndian (ofLittleEndian bytes) = bytes := by
  have hvalue : value bytes < 2 ^ 64 := by
    have := value_lt bytes
    rw [hlength] at this
    exact this
  have hword : (ofLittleEndian bytes).toNat = value bytes := by
    simp only [ofLittleEndian, UInt64.toNat_ofNat']
    exact Nat.mod_eq_of_lt hvalue
  rw [littleEndian, hword]
  conv => lhs; rw [show size = bytes.length from hlength.symm]
  exact digits_value bytes

end Word

end FileConduit
