import Mathlib.Data.List.Basic
import Mathlib.Data.Int.Notation

/-!
Texts as they go over the wire: `str.encode('utf-8')`, `urllib.parse.quote` and
`base64.b64encode`.
-/

namespace PyText

/-- `text.encode('utf-8')`. -/
def utf8 (text : String) : List UInt8 := text.toList.flatMap String.utf8EncodeChar

/-! ### Percent-encoding -/

/-- The bytes `quote` leaves alone: ASCII letters and digits, `_`, `.`, `-`, `~` and `/`. -/
def isQuoteSafe (b : UInt8) : Bool :=
  let n := b.toNat
  (0x30 ≤ n ∧ n ≤ 0x39) || (0x41 ≤ n ∧ n ≤ 0x5a) || (0x61 ≤ n ∧ n ≤ 0x7a) || n = 0x5f || n = 0x2e
    || n = 0x2d || n = 0x7e || n = 0x2f

/-- A hexadecimal digit, in upper case. -/
def hexDigit (n : ℕ) : Char := Char.ofNat (if n < 10 then 0x30 + n else 0x37 + n)

/-- One byte under `quote`. -/
def quoteByte (b : UInt8) : List Char :=
  if isQuoteSafe b then [Char.ofNat b.toNat]
  else ['%', hexDigit (b.toNat / 16), hexDigit (b.toNat % 16)]

/-- `quote(text)`. -/
def quote (text : String) : String := String.ofList ((utf8 text).flatMap quoteByte)

/-! ### Base64 -/

/-- The digit of six bits. -/
def b64Digit (n : ℕ) : Char :=
  if n < 26 then Char.ofNat (0x41 + n)
  else if n < 52 then Char.ofNat (0x61 + (n - 26))
  else if n < 62 then Char.ofNat (0x30 + (n - 52))
  else if n = 62 then '+' else '/'

/-- Three bytes make four digits; a shorter rest is filled up with `=`. -/
def b64Chars : List UInt8 → List Char
  | [] => []
  | [a] => [b64Digit (a.toNat / 4), b64Digit (a.toNat % 4 * 16), '=', '=']
  | [a, b] =>
    [b64Digit (a.toNat / 4), b64Digit (a.toNat % 4 * 16 + b.toNat / 16),
      b64Digit (b.toNat % 16 * 4), '=']
  | a :: b :: c :: rest =>
    b64Digit (a.toNat / 4) :: b64Digit (a.toNat % 4 * 16 + b.toNat / 16)
      :: b64Digit (b.toNat % 16 * 4 + c.toNat / 64) :: b64Digit (c.toNat % 64) :: b64Chars rest

/-- `base64.b64encode(text.encode('utf-8')).decode('utf-8')`. -/
def b64encode (text : String) : String := String.ofList (b64Chars (utf8 text))

end PyText
