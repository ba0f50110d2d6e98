import Mathlib.Data.List.Basic
import Mathlib.Data.List.ReduceOption
import Mathlib.Tactic.Common
import V2raySub.Base.WireText

/-!
Texts as they come back from the wire: `bytes.decode('utf-8')`, `urllib.parse.unquote` and
`base64.b64decode`.

* `utf8Pieces`: a text of bytes, character by character, with a gap for every piece that is no
  UTF-8; the strict decoder fails at a gap and the other one puts `U+FFFD` there.
* `unquote_quote`, `b64decode_b64encode`: each decoder undoes its encoder.
-/

namespace PyText

/-! ### UTF-8 -/

/-- The bytes `0x80` to `0xbf`. -/
def isContinuation (b : UInt8) : Bool := 0x80 ≤ b.toNat && b.toNat ≤ 0xbf

/-- The bytes that may come second in a character of three or four bytes. -/
def isSecond (lead b : UInt8) : Bool :=
  let low := if lead.toNat = 0xe0 then 0xa0 else if lead.toNat = 0xf0 then 0x90 else 0x80
  let high := if lead.toNat = 0xed then 0x9f else if lead.toNat = 0xf4 then 0x8f else 0xbf
  low ≤ b.toNat && b.toNat ≤ high

/-- How much of a text that does not begin with a character one gap stands for: the longest
beginning of a character. -/
def gapLength : List UInt8 → ℕ
  | lead :: second :: rest =>
    if 0xe0 ≤ lead.toNat && lead.toNat ≤ 0xf4 && isSecond lead second then
      match rest with
      | third :: _ => if 0xf0 ≤ lead.toNat && isContinuation third then 3 else 2
      | [] => 2
    else 1
  | _ => 1

/-- The characters of a text, `none` for a gap; a text of `fuel` bytes is read to its end. -/
def utf8Pieces : ℕ → List UInt8 → List (Option Char)
  | 0, _ => []
  | fuel + 1, bytes =>
    if bytes = [] then []
    else
      match bytes.toByteArray.utf8DecodeChar? 0 with
      | some c => some c :: utf8Pieces fuel (bytes.drop c.utf8Size)
      | none => none :: utf8Pieces fuel (bytes.drop (gapLength bytes))

/-- `bytes.decode('utf-8')`, `none` where it raises. -/
def decodeUtf8? (bytes : List UInt8) : Option String :=
  let pieces := utf8Pieces bytes.length bytes
  if none ∈ pieces then none else some (String.ofList pieces.reduceOption)

/-- `bytes.decode('utf-8', 'replace')`. -/
def decodeReplace (bytes : List UInt8) : List Char :=
  (utf8Pieces bytes.length bytes).map fun piece => piece.getD (Char.ofNat 0xfffd)

/-- The bytes of characters are cut into these characters. -/
lemma utf8Pieces_encode (cs : List Char) (fuel : ℕ)
    (h : (cs.flatMap String.utf8EncodeChar).length ≤ fuel) :
    utf8Pieces fuel (cs.flatMap String.utf8EncodeChar) = cs.map some := by
  induction cs generalizing fuel with
  | nil => cases fuel <;> simp [utf8Pieces]
  | cons c cs ih =>
      have hsize : (String.utf8EncodeChar c).length = c.utf8Size := String.length_utf8EncodeChar c
      have hpos : 0 < c.utf8Size := c.utf8Size_pos
      rw [List.flatMap_cons, List.length_append] at h
      cases fuel with
      | zero => omega
      | succ fuel =>
          have hne : String.utf8EncodeChar c ++ cs.flatMap String.utf8EncodeChar ≠ [] := by
            rw [ne_eq, ← List.length_eq_zero_iff, List.length_append]
            omega
          have hhead : (String.utf8EncodeChar c
              ++ cs.flatMap String.utf8EncodeChar).toByteArray.utf8DecodeChar? 0 = some c := by
            rw [List.toByteArray_append]
            exact ByteArray.utf8DecodeChar?_utf8EncodeChar_append
          rw [List.flatMap_cons, utf8Pieces, if_neg hne, hhead, List.map_cons]
          simp only [List.drop_left' hsize]
          rw [ih fuel (by omega)]

/-- The bytes of a text are cut into its characters. -/
lemma utf8Pieces_utf8 (text : String) :
    utf8Pieces (utf8 text).length (utf8 text) = text.toList.map some :=
  utf8Pieces_encode _ _ (Nat.le_refl _)

/-- Decoding undoes encoding. -/
theorem decodeUtf8?_utf8 (text : String) : decodeUtf8? (utf8 text) = some text := by
  have hno : none ∉ text.toList.map some := by simp
  have hall : (text.toList.map some).reduceOption = text.toList := by simp [List.reduceOption]
  rw [decodeUtf8?, utf8Pieces_utf8, if_neg hno, hall, String.ofList_toList]

/-- So does the decoder that replaces. -/
theorem decodeReplace_utf8 (text : String) : decodeReplace (utf8 text) = text.toList := by
  rw [decodeReplace, utf8Pieces_utf8, List.map_map]
  exact List.map_id _

/-! ### Percent-encoding -/

/-- The value of a hexadecimal digit. -/
def hexValue? (c : Char) : Option ℕ :=
  if '0' ≤ c ∧ c ≤ '9' then some (c.toNat - 0x30)
  else if 'A' ≤ c ∧ c ≤ 'F' then some (c.toNat - 0x37)
  else if 'a' ≤ c ∧ c ≤ 'f' then some (c.toNat - 0x57)
  else none

/-- `unquote_to_bytes` on ASCII text; a `%` without two digits stays. -/
def unquoteToBytes : List Char → List UInt8
  | '%' :: a :: b :: rest =>
    match hexValue? a, hexValue? b with
    | some high, some low => UInt8.ofNat (16 * high + low) :: unquoteToBytes rest
    | _, _ => 0x25 :: unquoteToBytes (a :: b :: rest)
  | c :: cs => UInt8.ofNat c.toNat :: unquoteToBytes cs
  | [] => []

/-- `unquote` after the ASCII text `run`: the ASCII runs are decoded, the other characters stay. -/
def unquoteRuns (run : List Char) : List Char → List Char
  | [] => decodeReplace (unquoteToBytes run)
  | c :: cs =>
    if c.toNat < 0x80 then unquoteRuns (run ++ [c]) cs
    else decodeReplace (unquoteToBytes run) ++ c :: unquoteRuns [] cs

/-- `unquote(text)`. -/
def unquote (text : String) : String := String.ofList (unquoteRuns [] text.toList)

/-- A digit has its value. -/
lemma hexValue?_hexDigit : ∀ n < 16, hexValue? (hexDigit n) = some n := by decide

lemma hexDigit_visible : ∀ n < 16, 0x20 < (hexDigit n).toNat ∧ (hexDigit n).toNat < 0x80 := by
  decide

/-- A byte that is left alone is an ASCII character and no `%`. -/
lemma safe_of_isQuoteSafe {b : UInt8} (h : isQuoteSafe b) :
    (Char.ofNat b.toNat).toNat = b.toNat ∧ 0x20 < b.toNat ∧ b.toNat < 0x80 ∧ b.toNat ≠ 0x25 := by
  have hlt : 0x20 < b.toNat ∧ b.toNat < 0x80 ∧ b.toNat ≠ 0x25 := by
    simp only [isQuoteSafe, Bool.or_eq_true, decide_eq_true_eq] at h
    omega
  have hvalid : b.toNat.isValidChar := .inl (by omega)
  refine ⟨?_, hlt⟩
  rw [Char.ofNat, dif_pos hvalid]
  rfl

/-- A quoted byte is read back. -/
lemma unquoteToBytes_quoteByte (b : UInt8) (rest : List Char) :
    unquoteToBytes (quoteByte b ++ rest) = b :: unquoteToBytes rest := by
  by_cases h : isQuoteSafe b
  · obtain ⟨hchar, -, -, hpercent⟩ := safe_of_isQuoteSafe h
    have hne : Char.ofNat b.toNat ≠ '%' := fun he => hpercent (by rw [← hchar, he]; rfl)
    rw [quoteByte, if_pos h, List.singleton_append, unquoteToBytes, hchar, UInt8.ofNat_toNat]
    exact fun _ _ _ he => absurd he hne
  · have hb : b.toNat < 256 := b.toNat_lt
    rw [quoteByte, if_neg h]
    simp only [List.cons_append, List.nil_append, unquoteToBytes,
      hexValue?_hexDigit _ (show b.toNat / 16 < 16 by omega),
      hexValue?_hexDigit _ (show b.toNat % 16 < 16 by omega)]
    rw [Nat.div_add_mod, UInt8.ofNat_toNat]

/-- Quoted bytes are read back. -/
lemma unquoteToBytes_quote (bytes : List UInt8) :
    unquoteToBytes (bytes.flatMap quoteByte) = bytes := by
  induction bytes with
  | nil => rfl
  | cons b bytes ih => rw [List.flatMap_cons, unquoteToBytes_quoteByte, ih]

/-- A quoted byte is written in ASCII, without a space. -/
lemma quoteByte_visible {b : UInt8} {c : Char} (hc : c ∈ quoteByte b) :
    0x20 < c.toNat ∧ c.toNat < 0x80 := by
  rw [quoteByte] at hc
  split_ifs at hc with h
  · obtain ⟨hchar, hlow, hhigh, -⟩ := safe_of_isQuoteSafe h
    rw [List.mem_singleton.mp hc, hchar]
    exact ⟨hlow, hhigh⟩
  · have hb : b.toNat < 256 := b.toNat_lt
    simp only [List.mem_cons, List.not_mem_nil, or_false] at hc
    rcases hc with rfl | rfl | rfl
    · decide
    · exact hexDigit_visible _ (by omega)
    · exact hexDigit_visible _ (by omega)

/-- What `quote` writes is visible ASCII. -/
lemma quote_visible {text : String} {c : Char} (hc : c ∈ (quote text).toList) :
    0x20 < c.toNat ∧ c.toNat < 0x80 := by
  rw [quote, String.toList_ofList] at hc
  obtain ⟨b, -, hb⟩ := List.mem_flatMap.mp hc
  exact quoteByte_visible hb

/-- A text in ASCII is one run. -/
lemma unquoteRuns_of_ascii (cs run : List Char) (h : ∀ c ∈ cs, c.toNat < 0x80) :
    unquoteRuns run cs = decodeReplace (unquoteToBytes (run ++ cs)) := by
  induction cs generalizing run with
  | nil => rw [unquoteRuns, List.append_nil]
  | cons c cs ih =>
      obtain ⟨hc, hcs⟩ := List.forall_mem_cons.mp h
      rw [unquoteRuns, if_pos hc, ih _ hcs, List.append_assoc, List.singleton_append]

/-- `unquote(quote(text)) = text`. -/
theorem unquote_quote (text : String) : unquote (quote text) = text := by
  rw [unquote, unquoteRuns_of_ascii _ _ fun c hc => (quote_visible hc).2, List.nil_append, quote,
    String.toList_ofList, unquoteToBytes_quote, decodeReplace_utf8, String.ofList_toList]

/-! ### Base64 -/

/-- The value of a digit. -/
def b64Value? (c : Char) : Option ℕ :=
  if 'A' ≤ c ∧ c ≤ 'Z' then some (c.toNat - 0x41)
  else if 'a' ≤ c ∧ c ≤ 'z' then some (c.toNat - 0x61 + 26)
  else if '0' ≤ c ∧ c ≤ '9' then some (c.toNat - 0x30 + 52)
  else if c = '+' then some 62
  else if c = '/' then some 63
  else none

/-- The loop of `binascii.a2b_base64`, which passes over what is no digit: `pos` digits of a group
of four are read, `left` is what they leave for the next byte, `pads` counts the `=` after them. -/
def a2bBase64 (pos left pads : ℕ) : List Char → Option (List UInt8)
  | [] => if pos = 0 then some [] else none
  | c :: cs =>
    if c = '=' then
      if pos < 2 then a2bBase64 pos left pads cs
      else if 4 ≤ pos + (pads + 1) then some []
      else a2bBase64 pos left (pads + 1) cs
    else
      match b64Value? c, pos with
      | none, _ => a2bBase64 pos left pads cs
      | some v, 0 => a2bBase64 1 v 0 cs
      | some v, 1 => (a2bBase64 2 (v % 16) 0 cs).map (UInt8.ofNat (left * 4 + v / 16) :: ·)
      | some v, 2 => (a2bBase64 3 (v % 4) 0 cs).map (UInt8.ofNat (left * 16 + v / 4) :: ·)
      | some v, _ => (a2bBase64 0 0 0 cs).map (UInt8.ofNat (left * 64 + v) :: ·)

/-- `base64.b64decode(text.encode('utf-8')).decode('utf-8')`, `none` where it raises. -/
def b64decode? (text : String) : Option String := (a2bBase64 0 0 0 text.toList).bind decodeUtf8?

/-- What the decoder does with a character. -/
lemma a2bBase64_cons (pos left pads : ℕ) (c : Char) (cs : List Char) :
    a2bBase64 pos left pads (c :: cs) =
      if c = '=' then
        if pos < 2 then a2bBase64 pos left pads cs
        else if 4 ≤ pos + (pads + 1) then some []
        else a2bBase64 pos left (pads + 1) cs
      else
        match b64Value? c, pos with
        | none, _ => a2bBase64 pos left pads cs
        | some v, 0 => a2bBase64 1 v 0 cs
        | some v, 1 => (a2bBase64 2 (v % 16) 0 cs).map (UInt8.ofNat (left * 4 + v / 16) :: ·)
        | some v, 2 => (a2bBase64 3 (v % 4) 0 cs).map (UInt8.ofNat (left * 16 + v / 4) :: ·)
        | some v, _ => (a2bBase64 0 0 0 cs).map (UInt8.ofNat (left * 64 + v) :: ·) :=
  rfl

/-- What the decoder does with a padding character. -/
lemma a2bBase64_pad (pos left pads : ℕ) (cs : List Char) :
    a2bBase64 pos left pads ('=' :: cs)
      = if pos < 2 then a2bBase64 pos left pads cs
        else if 4 ≤ pos + (pads + 1) then some []
        else a2bBase64 pos left (pads + 1) cs := by
  rw [a2bBase64_cons, if_pos rfl]

/-- A digit has its value. -/
lemma b64Value?_b64Digit : ∀ n < 64, b64Value? (b64Digit n) = some n := by decide

lemma b64Digit_ne_pad : ∀ n < 64, b64Digit n ≠ '=' := by decide

section

variable {n : ℕ} (hn : n < 64) (left pads : ℕ) (cs : List Char)
include hn

/-- The first digit of four is kept for the next. -/
@[simp] lemma a2bBase64_first :
    a2bBase64 0 left pads (b64Digit n :: cs) = a2bBase64 1 n 0 cs := by
  simp only [a2bBase64_cons, if_neg (b64Digit_ne_pad n hn), b64Value?_b64Digit n hn]

/-- The second digit gives the first byte. -/
@[simp] lemma a2bBase64_second :
    a2bBase64 1 left pads (b64Digit n :: cs)
      = (a2bBase64 2 (n % 16) 0 cs).map (UInt8.ofNat (left * 4 + n / 16) :: ·) := by
  simp only [a2bBase64_cons, if_neg (b64Digit_ne_pad n hn), b64Value?_b64Digit n hn]

/-- The third digit gives the second byte. -/
@[simp] lemma a2bBase64_third :
    a2bBase64 2 left pads (b64Digit n :: cs)
      = (a2bBase64 3 (n % 4) 0 cs).map (UInt8.ofNat (left * 16 + n / 4) :: ·) := by
  simp only [a2bBase64_cons, if_neg (b64Digit_ne_pad n hn), b64Value?_b64Digit n hn]

/-- The fourth digit gives the third byte. -/
@[simp] lemma a2bBase64_fourth :
    a2bBase64 3 left pads (b64Digit n :: cs)
      = (a2bBase64 0 0 0 cs).map (UInt8.ofNat (left * 64 + n) :: ·) := by
  simp only [a2bBase64_cons, if_neg (b64Digit_ne_pad n hn), b64Value?_b64Digit n hn]

end

/-- A byte is put together again from two parts. -/
lemma ofNat_of_parts {a : UInt8} {n : ℕ} (h : n = a.toNat) : UInt8.ofNat n = a := by
  rw [h, UInt8.ofNat_toNat]

/-- The digits of bytes are decoded to these bytes. -/
lemma a2bBase64_b64Chars (bytes : List UInt8) : a2bBase64 0 0 0 (b64Chars bytes) = some bytes := by
  induction bytes using b64Chars.induct with
  | case1 => rfl
  | case2 a =>
      have ha : a.toNat < 256 := a.toNat_lt
      rw [b64Chars, a2bBase64_first (by omega), a2bBase64_second (by omega),
        a2bBase64_pad, if_neg (by decide), if_neg (by decide), a2bBase64_pad, if_neg (by decide),
        if_pos (by decide), Option.map_some, ofNat_of_parts (a := a) (by omega)]
  | case3 a b =>
      have ha : a.toNat < 256 := a.toNat_lt
      have hb : b.toNat < 256 := b.toNat_lt
      rw [b64Chars, a2bBase64_first (by omega), a2bBase64_second (by omega),
        a2bBase64_third (by omega), a2bBase64_pad, if_neg (by decide), if_pos (by decide),
        Option.map_some, Option.map_some, ofNat_of_parts (a := a) (by omega),
        ofNat_of_parts (a := b) (by omega)]
  | case4 a b c rest ih =>
      have ha : a.toNat < 256 := a.toNat_lt
      have hb : b.toNat < 256 := b.toNat_lt
      have hc : c.toNat < 256 := c.toNat_lt
      rw [b64Chars, a2bBase64_first (by omega), a2bBase64_second (by omega),
        a2bBase64_third (by omega), a2bBase64_fourth (by omega), ih, Option.map_some,
        Option.map_some, Option.map_some, ofNat_of_parts (a := a) (by omega),
        ofNat_of_parts (a := b) (by omega), ofNat_of_parts (a := c) (by omega)]

/-- `b64decode(b64encode(text)) = text`. -/
theorem b64decode?_b64encode (text : String) : b64decode? (b64encode text) = some text := by
  rw [b64decode?, b64encode, String.toList_ofList, a2bBase64_b64Chars, Option.bind_some,
    decodeUtf8?_utf8]

/-- What `b64encode` writes are digits and padding, in groups of four. -/
lemma mem_b64Chars {bytes : List UInt8} {c : Char} (hc : c ∈ b64Chars bytes) :
    c = '=' ∨ ∃ n < 64, c = b64Digit n := by
  induction bytes using b64Chars.induct with
  | case1 => cases hc
  | case2 a =>
      have ha : a.toNat < 256 := a.toNat_lt
      simp only [b64Chars, List.mem_cons, List.not_mem_nil, or_false] at hc
      rcases hc with rfl | rfl | rfl | rfl
      · exact .inr ⟨_, by omega, rfl⟩
      · exact .inr ⟨_, by omega, rfl⟩
      · exact .inl rfl
      · exact .inl rfl
  | case3 a b =>
      have ha : a.toNat < 256 := a.toNat_lt
      have hb : b.toNat < 256 := b.toNat_lt
      simp only [b64Chars, List.mem_cons, List.not_mem_nil, or_false] at hc
      rcases hc with rfl | rfl | rfl | rfl
      · exact .inr ⟨_, by omega, rfl⟩
      · exact .inr ⟨_, by omega, rfl⟩
      · exact .inr ⟨_, by omega, rfl⟩
      · exact .inl rfl
  | case4 a b c' rest ih =>
      have ha : a.toNat < 256 := a.toNat_lt
      have hb : b.toNat < 256 := b.toNat_lt
      have hc' : c'.toNat < 256 := c'.toNat_lt
      simp only [b64Chars, List.mem_cons] at hc
      rcases hc with rfl | rfl | rfl | rfl | hc
      · exact .inr ⟨_, by omega, rfl⟩
      · exact .inr ⟨_, by omega, rfl⟩
      · exact .inr ⟨_, by omega, rfl⟩
      · exact .inr ⟨_, by omega, rfl⟩
      · exact ih hc

/-- The digits come in fours. -/
lemma length_b64Chars (bytes : List UInt8) : (b64Chars bytes).length % 4 = 0 := by
  induction bytes using b64Chars.induct with
  | case1 => rfl
  | case2 a => simp [b64Chars]
  | case3 a b => simp [b64Chars]
  | case4 a b c rest ih =>
      simp only [b64Chars, List.length_cons]
      omega

end PyText
