import Mathlib

/-!
# Checked textual keys

A key is written as the base-32 digits of a version byte, its 32 bytes and a
16-bit checksum: 280 bits, which are exactly 56 digits.  The text determines the
key, whatever the checksum is, so comparing texts is comparing keys.  A muxed key
carries a 64-bit identifier as well and takes 69 digits.
-/

namespace Relayer.Strkey

abbrev Uint256 := BitVec 256

/-- The `count` base-32 digits of a number, most significant first. -/
def base32Digits : ℕ → ℕ → List ℕ
  | 0, _ => []
  | count + 1, value => base32Digits count (value / 32) ++ [value % 32]

def base32Alphabet : List Char := "ABCDEFGHIJKLMNOPQRSTUVWXYZ234567".toList

def base32Char (digit : ℕ) : Char := base32Alphabet.getD digit '='

/-- The bytes of a key, most significant first. -/
def keyBytes (key : Uint256) : List ℕ :=
  (List.range 32).map fun index => key.toNat / 256 ^ (31 - index) % 256

/-- One bit of the CRC-16/XMODEM shift register. -/
def crcBit (crc : ℕ) : ℕ :=
  if crc / 2 ^ 15 % 2 = 1 then (crc * 2) % 2 ^ 16 ^^^ 0x1021 else (crc * 2) % 2 ^ 16

def crcByte (crc byte : ℕ) : ℕ :=
  Nat.iterate crcBit 8 (crc ^^^ byte * 2 ^ 8)

def checksum (bytes : List ℕ) : ℕ := bytes.foldl crcByte 0

/-- The checksum is appended low byte first. -/
def swapBytes (value : ℕ) : ℕ := value % 256 * 256 + value / 256 % 256

def strkeyNumber (version : ℕ) (key : Uint256) : ℕ :=
  version * 2 ^ 272 + key.toNat * 2 ^ 16 + swapBytes (checksum (version :: keyBytes key))

def strkey (version : ℕ) (key : Uint256) : String :=
  String.ofList ((base32Digits 56 (strkeyNumber version key)).map base32Char)

theorem idxOf_base32Char {digit : ℕ} (hdigit : digit < 32) :
    base32Alphabet.idxOf (base32Char digit) = digit := by
  have hall : ∀ digit : Fin 32, base32Alphabet.idxOf (base32Char digit) = digit.val := by
    decide +kernel
  exact hall ⟨digit, hdigit⟩

theorem swapBytes_lt (value : ℕ) : swapBytes value < 2 ^ 16 := by
  simp only [swapBytes]
  omega

theorem strkeyNumber_lt {version : ℕ} (hversion : version < 256) (key : Uint256) :
    strkeyNumber version key < 32 ^ 56 := by
  have hkey := key.isLt
  have hsum := swapBytes_lt (checksum (version :: keyBytes key))
  simp only [strkeyNumber]
  omega

/-! ## Reading keys -/

/-- The number that base-32 digits stand for. -/
def base32Value (text : List Char) : ℕ :=
  text.foldl (fun value char => value * 32 + base32Alphabet.idxOf char) 0

theorem base32Value_append (text : List Char) (char : Char) :
    base32Value (text ++ [char]) = base32Value text * 32 + base32Alphabet.idxOf char := by
  rw [base32Value, List.foldl_append]
  rfl

theorem base32Value_base32Digits (count value : ℕ) :
    base32Value ((base32Digits count value).map base32Char) = value % 32 ^ count := by
  induction count generalizing value with
  | zero => simp [base32Digits, base32Value, Nat.mod_one]
  | succ count ih =>
      rw [base32Digits, List.map_append, List.map_singleton, base32Value_append, ih,
        idxOf_base32Char (Nat.mod_lt value (by decide)), pow_succ, mul_comm (32 ^ count),
        Nat.mod_mul]
      omega

theorem length_base32Digits (count value : ℕ) : (base32Digits count value).length = count := by
  induction count generalizing value with
  | zero => rfl
  | succ count ih => rw [base32Digits, List.length_append, ih, List.length_singleton]

theorem length_strkey (version : ℕ) (key : Uint256) : (strkey version key).length = 56 := by
  rw [strkey, String.length_ofList, List.length_map, length_base32Digits]

/-- The key a text is written for.  Version and checksum are compared by writing the
key again. -/
def strkeyKey (version : ℕ) (text : String) : Option Uint256 :=
  if text.length = 56 then
    let key := BitVec.ofNat 256 (base32Value text.toList / 2 ^ 16)
    if strkey version key = text then some key else none
  else none

theorem strkey_of_strkeyKey {version : ℕ} {text : String} {key : Uint256}
    (hkey : strkeyKey version text = some key) : strkey version key = text := by
  obtain ⟨-, hkey⟩ := Option.ite_none_right_eq_some.mp hkey
  obtain ⟨htext, hsome⟩ := Option.ite_none_right_eq_some.mp hkey
  rw [← Option.some.inj hsome]
  exact htext

theorem strkeyKey_strkey {version : ℕ} (hversion : version < 256) (key : Uint256) :
    strkeyKey version (strkey version key) = some key := by
  have hsum := swapBytes_lt (checksum (version :: keyBytes key))
  have hread : BitVec.ofNat 256 (base32Value (strkey version key).toList / 2 ^ 16) = key := by
    rw [strkey, String.toList_ofList, base32Value_base32Digits,
      Nat.mod_eq_of_lt (strkeyNumber_lt hversion key), strkeyNumber]
    apply BitVec.eq_of_toNat_eq
    rw [BitVec.toNat_ofNat]
    have hkey := key.isLt
    omega
  rw [strkeyKey, hread, if_pos (length_strkey version key), if_pos rfl]

/-! ## Muxed keys -/

/-- The bytes of an identifier, most significant first. -/
def idBytes (id : UInt64) : List ℕ :=
  (List.range 8).map fun index => id.toNat / 256 ^ (7 - index) % 256

/-- One bit of padding fills the last digit. -/
def muxedStrkeyNumber (version : ℕ) (key : Uint256) (id : UInt64) : ℕ :=
  2 * (version * 2 ^ 336 + key.toNat * 2 ^ 80 + id.toNat * 2 ^ 16 +
    swapBytes (checksum (version :: (keyBytes key ++ idBytes id))))

def muxedStrkey (version : ℕ) (key : Uint256) (id : UInt64) : String :=
  String.ofList ((base32Digits 69 (muxedStrkeyNumber version key id)).map base32Char)

def muxedStrkeyKey (version : ℕ) (text : String) : Option (Uint256 × UInt64) :=
  if text.length = 69 then
    let value := base32Value text.toList
    let key := BitVec.ofNat 256 (value / 2 ^ 81)
    let id := UInt64.ofNat (value / 2 ^ 17)
    if muxedStrkey version key id = text then some (key, id) else none
  else none

/-- The text of a plain key is too short for a muxed one. -/
theorem muxedStrkeyKey_strkey (muxedVersion version : ℕ) (key : Uint256) :
    muxedStrkeyKey muxedVersion (strkey version key) = none := by
  rw [muxedStrkeyKey, length_strkey, if_neg (by decide)]

end Relayer.Strkey
