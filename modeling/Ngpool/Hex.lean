import Ngpool.Go

/-!
# Hex Encoding

Go's `encoding/hex`, as the job builder uses it: templates carry the previous block hash, the
compact target and every transaction as hex text, decoded by `hex.DecodeString`, and the
Stratum emitters send header fields to miners as `hex.EncodeToString` text.

`decodeString` follows `hex.Decode` of current Go: pairs of digits are decoded left to right
and the first bad digit is reported; an odd trailing digit is checked for validity before the
odd length is reported. Hex text is a Lean `String` and is decoded character by character (Go
decodes its bytes; on ASCII text the two agree, and any other character is an invalid byte in
both).

## Main results

* `decodeString_encodeToString`: decoding the text `encodeToString` produces gives the bytes
  back — the round trip a miner relies on when it rebuilds a header from Stratum parameters.
* `length_decodeString`: a successful decode has half as many bytes as the text has digits.
-/

namespace Ngpool

/-- The lowercase digit of a nibble, from Go's `hextable = "0123456789abcdef"`. -/
def hexDigit (n : Nat) : Char :=
  if n < 10 then Char.ofNat (48 + n) else Char.ofNat (87 + n)

/-- `fromHexChar`: the value of a hex digit of either case. -/
def fromHexChar (c : Char) : Option Nat :=
  if '0' ≤ c ∧ c ≤ '9' then some (c.toNat - 48)
  else if 'a' ≤ c ∧ c ≤ 'f' then some (c.toNat - 87)
  else if 'A' ≤ c ∧ c ≤ 'F' then some (c.toNat - 55)
  else none

theorem fromHexChar_hexDigit : ∀ n, n < 16 → fromHexChar (hexDigit n) = some n := by
  decide

/-- The two digits of one byte, high nibble first. -/
def hexPair (b : UInt8) : List Char := [hexDigit (b.toNat / 16), hexDigit (b.toNat % 16)]

/-- `hex.EncodeToString`. -/
def encodeToString (b : Bytes) : String := ⟨b.flatMap hexPair⟩

/-- `hex.ErrLength`. -/
def errLength : String := "encoding/hex: odd length hex string"

/-- `InvalidByteError(c).Error()`, which formats the offending character with `%#U`. -/
def invalidByteError (c : Char) : String :=
  let digits := (Nat.toDigits 16 c.toNat).map Char.toUpper
  "encoding/hex: invalid byte: U+" ++ ⟨List.replicate (4 - digits.length) '0' ++ digits⟩ ++
    " '" ++ c.toString ++ "'"

/-- `hex.Decode` on a list of digits. -/
def decodeChars : List Char → Except String Bytes
  | [] => .ok []
  | [p] => .error (if (fromHexChar p).isSome then errLength else invalidByteError p)
  | p :: q :: rest =>
    match fromHexChar p, fromHexChar q with
    | some a, some b => (decodeChars rest).map (UInt8.ofNat (a * 16 + b) :: ·)
    | none, _ => .error (invalidByteError p)
    | some _, none => .error (invalidByteError q)

/-- `hex.DecodeString`. -/
def decodeString (s : String) : Except String Bytes := decodeChars s.data

/-- Decoding the digits of one byte gives that byte back. -/
theorem decodeChars_hexPair (b : UInt8) (rest : List Char) :
    decodeChars (hexPair b ++ rest) = (decodeChars rest).map (b :: ·) := by
  have hb : b.toNat < 256 := b.toNat_lt_size
  have hhi : fromHexChar (hexDigit (b.toNat / 16)) = some (b.toNat / 16) :=
    fromHexChar_hexDigit _ (by omega)
  have hlo : fromHexChar (hexDigit (b.toNat % 16)) = some (b.toNat % 16) :=
    fromHexChar_hexDigit _ (by omega)
  have hbyte : UInt8.ofNat (b.toNat / 16 * 16 + b.toNat % 16) = b := by
    rw [Nat.div_add_mod']
    exact UInt8.toNat.inj (UInt8.toNat_ofNat_of_lt b.toNat_lt_size)
  show decodeChars (_ :: _ :: rest) = _
  simp only [decodeChars, hhi, hlo, hbyte]

/-- **Round trip**: `hex.DecodeString` inverts `hex.EncodeToString`. -/
@[simp] theorem decodeString_encodeToString (b : Bytes) :
    decodeString (encodeToString b) = .ok b := by
  induction b with
  | nil => rfl
  | cons x xs ih =>
    simp only [decodeString, encodeToString, List.flatMap_cons] at ih ⊢
    rw [decodeChars_hexPair, ih]
    rfl

/-- A successful decode halves the number of digits. -/
theorem length_decodeChars : ∀ {cs : List Char} {b : Bytes},
    decodeChars cs = .ok b → 2 * b.length = cs.length
  | [], _, h => by cases h; rfl
  | [_], _, h => by simp only [decodeChars] at h; split at h <;> cases h
  | _ :: _ :: rest, _, h => by
    simp only [decodeChars] at h
    split at h
    · cases hr : decodeChars rest with
      | error e => rw [hr] at h; cases h
      | ok r =>
        rw [hr] at h
        cases h
        have := length_decodeChars hr
        simp only [List.length_cons]
        omega
    · cases h
    · cases h

theorem length_decodeString {s : String} {b : Bytes} (h : decodeString s = .ok b) :
    2 * b.length = s.length := by
  rw [String.length, ← length_decodeChars h]

end Ngpool
