import Mathlib.Data.Nat.Digits.Lemmas
import Mathlib.Data.List.GetD

/-! # Byte strings

Fixed-width big-endian numbers, UTF-8 text and lowercase hexadecimal over lists
of bytes. Each encoder comes with its length, its decoder and the round trip
between them; every decoder is total, and a caller that must reject short
input checks the length first.
-/

namespace Foundation

open List Nat

abbrev Bytes := List UInt8

/-! ## Big-endian numbers -/

/-- The `width` low-order base-256 digits of `value`, most significant first. -/
def beBytes : Nat → Nat → Bytes
  | 0, _ => []
  | width + 1, value => UInt8.ofNat (value / 256 ^ width) :: beBytes width value

/-- The number a byte string spells, most significant digit first. -/
def beValue : Bytes → Nat
  | [] => 0
  | digit :: rest => digit.toNat * 256 ^ rest.length + beValue rest

@[simp] theorem length_beBytes (width value : Nat) : (beBytes width value).length = width := by
  induction width with
  | zero => rfl
  | succ width ih => simp [beBytes, ih]

theorem beValue_beBytes (width value : Nat) :
    beValue (beBytes width value) = value % 256 ^ width := by
  induction width with
  | zero => simp [beBytes, beValue, mod_one]
  | succ width ih =>
    rw [beBytes, beValue, ih, mod_pow_succ]
    simp [mul_comm, add_comm]

variable {width : Nat} {field bytes : Bytes}

theorem beValue_beBytes_of_lt {value : Nat} (hvalue : value < 256 ^ width) :
    beValue (beBytes width value) = value := by
  rw [beValue_beBytes, mod_eq_of_lt hvalue]

/-- Distinct values below the width's range have distinct spellings. -/
theorem beBytes_inj {left right : Nat} (hleft : left < 256 ^ width) (hright : right < 256 ^ width)
    (heq : beBytes width left = beBytes width right) : left = right := by
  have hvalue := congrArg beValue heq
  rwa [beValue_beBytes_of_lt hleft, beValue_beBytes_of_lt hright] at hvalue

def u16Bytes (value : UInt16) : Bytes := beBytes 2 value.toNat
def u32Bytes (value : UInt32) : Bytes := beBytes 4 value.toNat
def u64Bytes (value : UInt64) : Bytes := beBytes 8 value.toNat
def i64Bytes (value : Int64) : Bytes := u64Bytes value.toUInt64

def u16Value (bytes : Bytes) : UInt16 := UInt16.ofNat (beValue bytes)
def u32Value (bytes : Bytes) : UInt32 := UInt32.ofNat (beValue bytes)
def u64Value (bytes : Bytes) : UInt64 := UInt64.ofNat (beValue bytes)
def i64Value (bytes : Bytes) : Int64 := (u64Value bytes).toInt64

@[simp] theorem length_u16Bytes (value : UInt16) : (u16Bytes value).length = 2 := length_beBytes _ _

@[simp] theorem length_u32Bytes (value : UInt32) : (u32Bytes value).length = 4 := length_beBytes _ _

@[simp] theorem length_u64Bytes (value : UInt64) : (u64Bytes value).length = 8 := length_beBytes _ _

@[simp] theorem length_i64Bytes (value : Int64) : (i64Bytes value).length = 8 := length_u64Bytes _

@[simp] theorem u16Value_u16Bytes (value : UInt16) : u16Value (u16Bytes value) = value := by
  rw [u16Value, u16Bytes, beValue_beBytes_of_lt (by simpa using value.toNat_lt)]
  exact UInt16.ofNat_toNat

@[simp] theorem u32Value_u32Bytes (value : UInt32) : u32Value (u32Bytes value) = value := by
  rw [u32Value, u32Bytes, beValue_beBytes_of_lt (by simpa using value.toNat_lt)]
  exact UInt32.ofNat_toNat

@[simp] theorem u64Value_u64Bytes (value : UInt64) : u64Value (u64Bytes value) = value := by
  rw [u64Value, u64Bytes, beValue_beBytes_of_lt (by simpa using value.toNat_lt)]
  exact UInt64.ofNat_toNat

@[simp] theorem i64Value_i64Bytes (value : Int64) : i64Value (i64Bytes value) = value := by
  simp [i64Value, i64Bytes]

theorem beValue_lt (bytes : Bytes) : beValue bytes < 256 ^ bytes.length := by
  induction bytes with
  | nil => simp [beValue]
  | cons digit rest ih =>
    have hdigit := digit.toNat_lt
    have hstep : (digit.toNat + 1) * 256 ^ rest.length ≤ 256 * 256 ^ rest.length :=
      mul_le_mul_right _ (by omega)
    rw [beValue, length_cons]
    rw [add_mul] at hstep
    omega

/-- Digits above the width do not show. -/
theorem beBytes_add_mul (width value count : Nat) :
    beBytes width (count * 256 ^ width + value) = beBytes width value := by
  induction width generalizing count with
  | zero => rfl
  | succ width ih =>
    have hshift : count * 256 ^ (width + 1) = count * 256 * 256 ^ width := by
      rw [pow_succ', mul_assoc]
    rw [beBytes, hshift, ih, mul_comm, mul_add_div (by positivity)]
    congr 1
    rw [← UInt8.toNat_inj, UInt8.toNat_ofNat', UInt8.toNat_ofNat']
    omega

theorem beBytes_beValue (bytes : Bytes) : beBytes bytes.length (beValue bytes) = bytes := by
  induction bytes with
  | nil => rfl
  | cons digit rest ih =>
    have hrest := beValue_lt rest
    rw [length_cons, beBytes, beValue, beBytes_add_mul, ih, mul_comm,
      mul_add_div (by positivity), div_eq_of_lt hrest, add_zero, UInt8.ofNat_toNat]

section Spelling

theorem u32Bytes_u32Value (hfield : field.length = 4) : u32Bytes (u32Value field) = field := by
  have hlt := beValue_lt field
  rw [hfield] at hlt
  rw [u32Bytes, u32Value, UInt32.toNat_ofNat', mod_eq_of_lt (by simpa using hlt), ← hfield,
    beBytes_beValue]

theorem u64Bytes_u64Value (hfield : field.length = 8) : u64Bytes (u64Value field) = field := by
  have hlt := beValue_lt field
  rw [hfield] at hlt
  rw [u64Bytes, u64Value, UInt64.toNat_ofNat', mod_eq_of_lt (by simpa using hlt), ← hfield,
    beBytes_beValue]

theorem i64Bytes_i64Value (hfield : field.length = 8) : i64Bytes (i64Value field) = field := by
  rw [i64Bytes, i64Value, UInt64.toUInt64_toInt64, u64Bytes_u64Value hfield]

end Spelling

/-! ## Fields at fixed offsets -/

/-- The `width` bytes that start at `offset`. -/
def slice (bytes : Bytes) (offset width : Nat) : Bytes := (bytes.drop offset).take width

theorem slice_append_of_le {rest : Bytes} {offset : Nat} (hfield : field.length ≤ offset) :
    slice (field ++ rest) offset width = slice rest (offset - field.length) width := by
  rw [slice, slice, drop_append, drop_eq_nil_of_le hfield, nil_append]

theorem slice_append_self {rest : Bytes} (hfield : field.length = width) :
    slice (field ++ rest) 0 width = field := by
  rw [slice, drop_zero, take_left' hfield]

theorem slice_self (hfield : field.length = width) : slice field 0 width = field := by
  rw [slice, drop_zero, ← hfield, take_length]

theorem length_slice {offset : Nat} (h : offset + width ≤ bytes.length) :
    (slice bytes offset width).length = width := by
  rw [slice, length_take, length_drop]
  omega

theorem slice_append_drop (bytes : Bytes) (offset width : Nat) :
    slice bytes offset width ++ bytes.drop (offset + width) = bytes.drop offset := by
  rw [slice, ← drop_drop, take_append_drop]

theorem length_padded (bytes : Bytes) : ((bytes ++ List.replicate 32 0).take 32).length = 32 := by
  simp

/-! ## Text -/

def utf8Bytes (text : String) : Bytes := text.toByteArray.data.toList

/-- The text a byte string encodes, if it is well-formed UTF-8. -/
def utf8Text? (bytes : Bytes) : Option String := String.fromUTF8? ⟨bytes.toArray⟩

@[simp] theorem utf8Text?_utf8Bytes (text : String) : utf8Text? (utf8Bytes text) = some text := by
  have hvalid : ByteArray.IsValidUTF8 ⟨text.toByteArray.data⟩ := text.isValidUTF8
  rw [utf8Text?, utf8Bytes, String.fromUTF8?, dif_pos hvalid]
  rfl

theorem utf8Bytes_of_utf8Text? {text : String} (h : utf8Text? bytes = some text) :
    utf8Bytes text = bytes := by
  unfold utf8Text? String.fromUTF8? at h
  split at h
  · cases h
    rfl
  · cases h

theorem length_utf8Bytes (text : String) : (utf8Bytes text).length = text.utf8ByteSize := by
  rfl

/-- A text of ASCII characters is encoded one byte to the character. -/
theorem utf8Bytes_ofList_ascii {chars : List Char} (hascii : ∀ char ∈ chars, char.utf8Size = 1) :
    utf8Bytes (String.ofList chars) = chars.map fun char => char.val.toUInt8 := by
  have hencode : chars.flatMap String.utf8EncodeChar = chars.map fun char => char.val.toUInt8 := by
    induction chars with
    | nil => rfl
    | cons char rest ih =>
      have hchar := String.utf8EncodeChar_eq_singleton (hascii char mem_cons_self)
      rw [flatMap_cons, hchar, ih fun other hother => hascii other (mem_cons_of_mem _ hother)]
      rfl
  rw [← hencode, utf8Bytes, String.toByteArray_ofList, utf8Encode, data_toByteArray]

/-! ## Hexadecimal -/

/-- The lowercase hexadecimal character of a nibble. -/
def hexDigit (nibble : Nat) : Char := Nat.digitChar nibble

def lowercaseHex (bytes : Bytes) : String :=
  String.ofList (bytes.flatMap fun byte => [hexDigit (byte.toNat / 16), hexDigit (byte.toNat % 16)])

def isLowercaseHexByte (byte : UInt8) : Bool :=
  (48 ≤ byte && byte ≤ 57) || (97 ≤ byte && byte ≤ 102)

/-- The nibble a lowercase hexadecimal character spells. -/
def hexValue (byte : UInt8) : Nat :=
  if byte ≤ 57 then byte.toNat - 48 else byte.toNat - 87

def decodeHexPairs : Bytes → Bytes
  | high :: low :: rest => UInt8.ofNat (hexValue high * 16 + hexValue low) :: decodeHexPairs rest
  | _ => []

/-- The `width` bytes a text spells in lowercase hexadecimal, or nothing when
the text has another length or another character. -/
def decodeHex (width : Nat) (text : String) : Option Bytes :=
  let raw := utf8Bytes text
  if raw.length ≠ width * 2 ∨ ¬ raw.all isLowercaseHexByte then none
  else some (decodeHexPairs raw)

/-- The two ASCII codes `lowercaseHex` emits for a byte. -/
def hexCodes (byte : UInt8) : Bytes :=
  [(hexDigit (byte.toNat / 16)).val.toUInt8, (hexDigit (byte.toNat % 16)).val.toUInt8]

theorem hexDigit_ascii : ∀ nibble < 16, (hexDigit nibble).utf8Size = 1 := by decide

theorem hexDigit_isLowercaseHexByte :
    ∀ nibble < 16, isLowercaseHexByte (hexDigit nibble).val.toUInt8 = true := by decide

theorem hexValue_hexDigit : ∀ nibble < 16, hexValue (hexDigit nibble).val.toUInt8 = nibble := by
  decide

variable (bytes)

theorem utf8Bytes_lowercaseHex : utf8Bytes (lowercaseHex bytes) = bytes.flatMap hexCodes := by
  have hascii : ∀ char ∈ bytes.flatMap fun byte =>
      [hexDigit (byte.toNat / 16), hexDigit (byte.toNat % 16)], char.utf8Size = 1 := by
    intro char hchar
    obtain ⟨byte, _, hmem⟩ := mem_flatMap.mp hchar
    have hbyte := byte.toNat_lt
    rcases mem_pair.mp hmem with rfl | rfl <;> exact hexDigit_ascii _ (by omega)
  rw [lowercaseHex, utf8Bytes_ofList_ascii hascii, map_flatMap]
  rfl

theorem length_flatMap_hexCodes : (bytes.flatMap hexCodes).length = bytes.length * 2 := by
  induction bytes with
  | nil => rfl
  | cons byte rest ih =>
    simp only [flatMap_cons, length_append, ih, length_cons, hexCodes, length_nil]
    omega

theorem all_flatMap_hexCodes : (bytes.flatMap hexCodes).all isLowercaseHexByte = true := by
  rw [all_eq_true]
  intro code hcode
  obtain ⟨byte, _, hmem⟩ := mem_flatMap.mp hcode
  have hbyte := byte.toNat_lt
  rcases mem_pair.mp hmem with rfl | rfl <;> exact hexDigit_isLowercaseHexByte _ (by omega)

theorem decodeHexPairs_flatMap_hexCodes : decodeHexPairs (bytes.flatMap hexCodes) = bytes := by
  induction bytes with
  | nil => rfl
  | cons byte rest ih =>
    have hbyte := byte.toNat_lt
    have hvalue : byte.toNat / 16 * 16 + byte.toNat % 16 = byte.toNat := by omega
    simp only [flatMap_cons, hexCodes, cons_append, nil_append, decodeHexPairs]
    rw [hexValue_hexDigit _ (by omega), hexValue_hexDigit _ (by omega), hvalue,
      UInt8.ofNat_toNat, ih]

variable {bytes}

@[simp] theorem decodeHex_lowercaseHex (hwidth : bytes.length = width) :
    decodeHex width (lowercaseHex bytes) = some bytes := by
  simp only [decodeHex, utf8Bytes_lowercaseHex, length_flatMap_hexCodes, hwidth,
    all_flatMap_hexCodes, ne_eq, not_true_eq_false, or_self, if_false,
    decodeHexPairs_flatMap_hexCodes]

end Foundation
