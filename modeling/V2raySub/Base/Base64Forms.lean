import Mathlib.Data.List.Basic
import Mathlib.Tactic.Common
import V2raySub.Base.Lines
import V2raySub.Base.WireDecode

/-!
The forms of a `base64` text: either alphabet, with or without padding, wrapped into lines, between
spaces.

* `a2bBase64_filter`: the decoder passes over everything that is no digit and no padding.
* `a2bBase64_data`: digits without their padding are decoded exactly if enough of it follows.
* `Base64Form.a2bBase64_body`: **a form that is repaired as one line is decoded exactly if it
  `Fits`**: its padding is there, or the line breaks do not hide that it is missing.
-/

namespace PyText

/-! ### What the decoder reads -/

/-- A digit or the padding. -/
def isBase64 (c : Char) : Bool := c = '=' || (b64Value? c).isSome

lemma a2bBase64_other {c : Char} (hpad : c ≠ '=') (hvalue : b64Value? c = none)
    (pos left pads : ℕ) (cs : List Char) :
    a2bBase64 pos left pads (c :: cs) = a2bBase64 pos left pads cs := by
  rw [a2bBase64_cons, if_neg hpad, hvalue]

/-- The decoder reads what follows a character whatever the character was. -/
lemma a2bBase64_cons_congr {cs ds : List Char}
    (h : ∀ pos left pads, a2bBase64 pos left pads cs = a2bBase64 pos left pads ds)
    (pos left pads : ℕ) (c : Char) :
    a2bBase64 pos left pads (c :: cs) = a2bBase64 pos left pads (c :: ds) := by
  rw [a2bBase64_cons, a2bBase64_cons]
  simp only [h]

/-- The decoder passes over the other characters. -/
lemma a2bBase64_filter (pos left pads : ℕ) (cs : List Char) :
    a2bBase64 pos left pads (cs.filter isBase64) = a2bBase64 pos left pads cs := by
  induction cs generalizing pos left pads with
  | nil => rfl
  | cons c cs ih =>
      by_cases hkeep : isBase64 c = true
      · rw [List.filter_cons_of_pos hkeep]
        exact a2bBase64_cons_congr ih pos left pads c
      · have hother : c ≠ '=' ∧ b64Value? c = none := by simpa [isBase64] using hkeep
        rw [List.filter_cons_of_neg hkeep, ih, a2bBase64_other hother.1 hother.2]

/-- Padding behind whole groups is passed over. -/
lemma a2bBase64_pads (left pads p : ℕ) :
    a2bBase64 0 left pads (List.replicate p '=') = some [] := by
  induction p with
  | zero => rfl
  | succ p ih => rw [List.replicate_succ, a2bBase64_pad, if_pos Nat.two_pos, ih]

/-- After two digits of a group, two more characters are missing. -/
lemma a2bBase64_two_pads (left p : ℕ) :
    a2bBase64 2 left 0 (List.replicate p '=') = if 2 ≤ p then some [] else none := by
  match p with
  | 0 => rfl
  | 1 => rfl
  | p + 2 => simp [List.replicate_succ, a2bBase64_pad]

/-- After three digits of a group, one more character is missing. -/
lemma a2bBase64_one_pad (left p : ℕ) :
    a2bBase64 3 left 0 (List.replicate p '=') = if 1 ≤ p then some [] else none := by
  match p with
  | 0 => rfl
  | p + 1 => simp [List.replicate_succ, a2bBase64_pad]

/-- The digits of a text, without its padding. -/
def b64Data : List UInt8 → List Char
  | [] => []
  | [a] => [b64Digit (a.toNat / 4), b64Digit (a.toNat % 4 * 16)]
  | [a, b] =>
    [b64Digit (a.toNat / 4), b64Digit (a.toNat % 4 * 16 + b.toNat / 16),
      b64Digit (b.toNat % 16 * 4)]
  | a :: b :: c :: rest =>
    b64Digit (a.toNat / 4) :: b64Digit (a.toNat % 4 * 16 + b.toNat / 16)
      :: b64Digit (b.toNat % 16 * 4 + c.toNat / 64) :: b64Digit (c.toNat % 64) :: b64Data rest

/-- How much padding a text of `n` bytes needs. -/
def padding (n : ℕ) : ℕ := (3 - n % 3) % 3

@[simp] lemma padding_add_three (n : ℕ) : padding (n + 1 + 1 + 1) = padding n := by
  rw [padding, padding, Nat.add_assoc, Nat.add_assoc, Nat.add_mod_right]

lemma b64Chars_eq (bytes : List UInt8) :
    b64Chars bytes = b64Data bytes ++ List.replicate (padding bytes.length) '=' := by
  induction bytes using b64Chars.induct with
  | case1 => rfl
  | case2 a => rfl
  | case3 a b => rfl
  | case4 a b c rest ih => simp [b64Chars, b64Data, ih]

lemma length_b64Data (bytes : List UInt8) :
    (b64Data bytes).length = (4 * bytes.length + 2) / 3 := by
  induction bytes using b64Chars.induct with
  | case1 => rfl
  | case2 a => simp [b64Data]
  | case3 a b => simp [b64Data]
  | case4 a b c rest ih =>
      simp only [b64Data, List.length_cons, ih]
      omega

/-- Digits without their padding are decoded exactly if enough of it follows. -/
lemma a2bBase64_data (bytes : List UInt8) (p : ℕ) :
    a2bBase64 0 0 0 (b64Data bytes ++ List.replicate p '=')
      = if padding bytes.length ≤ p then some bytes else none := by
  induction bytes using b64Chars.induct with
  | case1 => exact a2bBase64_pads 0 0 p
  | case2 a =>
      have ha : a.toNat < 256 := a.toNat_lt
      have hpadding : padding [a].length = 2 := rfl
      rw [b64Data, List.cons_append, List.cons_append, List.nil_append,
        a2bBase64_first (by omega), a2bBase64_second (by omega), a2bBase64_two_pads, hpadding]
      split_ifs
      · rw [Option.map_some, ofNat_of_parts (a := a) (by omega)]
      · rfl
  | case3 a b =>
      have ha : a.toNat < 256 := a.toNat_lt
      have hb : b.toNat < 256 := b.toNat_lt
      have hpadding : padding [a, b].length = 1 := rfl
      rw [b64Data, List.cons_append, List.cons_append, List.cons_append, List.nil_append,
        a2bBase64_first (by omega), a2bBase64_second (by omega), a2bBase64_third (by omega),
        a2bBase64_one_pad, hpadding]
      split_ifs
      · rw [Option.map_some, Option.map_some, ofNat_of_parts (a := a) (by omega),
          ofNat_of_parts (a := b) (by omega)]
      · rfl
  | case4 a b c rest ih =>
      have ha : a.toNat < 256 := a.toNat_lt
      have hb : b.toNat < 256 := b.toNat_lt
      have hc : c.toNat < 256 := c.toNat_lt
      rw [b64Data, List.cons_append, List.cons_append, List.cons_append, List.cons_append,
        a2bBase64_first (by omega), a2bBase64_second (by omega), a2bBase64_third (by omega),
        a2bBase64_fourth (by omega), ih, List.length_cons, List.length_cons, List.length_cons,
        padding_add_three]
      split_ifs
      · rw [Option.map_some, Option.map_some, Option.map_some, ofNat_of_parts (a := a) (by omega),
          ofNat_of_parts (a := b) (by omega), ofNat_of_parts (a := c) (by omega)]
      · rfl

/-! ### Wrapped texts -/

/-- A text in lines of `width` characters; the width `0` is one line. -/
def wrap (newline : List Char) (width : ℕ) (cs : List Char) : List Char :=
  cs.zipIdx.flatMap fun x =>
    if x.2 ≠ 0 ∧ x.2 % width = 0 then newline ++ [x.1] else [x.1]

/-- One character more may begin a line. -/
lemma wrap_concat (newline : List Char) (width : ℕ) (cs : List Char) (c : Char) :
    wrap newline width (cs ++ [c]) = wrap newline width cs
      ++ if cs.length ≠ 0 ∧ cs.length % width = 0 then newline ++ [c] else [c] := by
  rw [wrap, List.zipIdx_append, List.flatMap_append, Nat.zero_add]
  simp [wrap]

lemma length_wrap (newline : List Char) (width : ℕ) (cs : List Char) :
    (wrap newline width cs).length
      = cs.length + newline.length * ((cs.length - 1) / width) := by
  induction cs using List.reverseRecOn with
  | nil => simp [wrap]
  | append_singleton cs c ih =>
      rw [wrap_concat, List.length_append, ih, List.length_append, List.length_singleton,
        Nat.add_sub_cancel]
      cases hlength : cs.length with
      | zero => simp
      | succ n =>
          rw [Nat.add_sub_cancel, Nat.succ_div]
          split_ifs with hwrap hdvd hdvd
          · simp only [List.length_append, List.length_singleton, Nat.mul_add, Nat.mul_one]
            omega
          · exact absurd (Nat.dvd_of_mod_eq_zero hwrap.2) hdvd
          · exact absurd ⟨Nat.succ_ne_zero n, Nat.mod_eq_zero_of_dvd hdvd⟩ hwrap
          · simp only [List.length_singleton, Nat.add_zero]
            omega

/-- What goes through the characters leaves the lines as they are. -/
lemma map_wrap (f : Char → Char) {newline : List Char} (h : newline.map f = newline) (width : ℕ)
    (cs : List Char) : (wrap newline width cs).map f = wrap newline width (cs.map f) := by
  induction cs using List.reverseRecOn with
  | nil => rfl
  | append_singleton cs c ih =>
      rw [wrap_concat, List.map_append, ih, List.map_append, List.map_singleton, wrap_concat,
        List.length_map]
      split_ifs
      · rw [List.map_append, h, List.map_singleton]
      · rfl

/-- A filter that drops the line breaks puts the lines together. -/
lemma filter_wrap {p : Char → Bool} {newline : List Char} (h : newline.filter p = []) (width : ℕ)
    (cs : List Char) : (wrap newline width cs).filter p = cs.filter p := by
  induction cs using List.reverseRecOn with
  | nil => rfl
  | append_singleton cs c ih =>
      rw [wrap_concat, List.filter_append, ih, List.filter_append]
      split_ifs
      · rw [List.filter_append, h, List.nil_append]
      · rfl

lemma mem_wrap {newline : List Char} {width : ℕ} {cs : List Char} {c : Char}
    (h : c ∈ wrap newline width cs) : c ∈ newline ∨ c ∈ cs := by
  obtain ⟨x, hx, hc⟩ := List.mem_flatMap.mp h
  have hmem : x.1 ∈ cs := List.fst_mem_of_mem_zipIdx hx
  split_ifs at hc
  · refine (List.mem_append.mp hc).imp_right fun hc => ?_
    rwa [List.mem_singleton.mp hc]
  · right
    rwa [List.mem_singleton.mp hc]

/-- A wrapped text begins and ends as it did. -/
lemma ends_wrap (newline : List Char) (width : ℕ) (cs : List Char) :
    (wrap newline width cs).head? = cs.head? ∧ (wrap newline width cs).getLast? = cs.getLast? := by
  constructor
  · cases cs with
    | nil => rfl
    | cons c cs => simp [wrap]
  · induction cs using List.reverseRecOn with
    | nil => rfl
    | append_singleton cs c ih =>
        rw [wrap_concat]
        split_ifs <;> simp

/-! ### The forms -/

/-- A way to write a text in `base64`: the alphabet, the padding, the lines, and the spaces around
it. -/
structure Base64Form where
  urlSafe : Bool
  padded : Bool
  width : ℕ
  newline : List Char
  before : List Char
  after : List Char
  newline_space : ∀ c ∈ newline, isSpace c
  before_space : ∀ c ∈ before, isSpace c
  after_space : ∀ c ∈ after, isSpace c

namespace Base64Form

variable (form : Base64Form)

/-- The digit of the alphabet. -/
def digit (c : Char) : Char :=
  if form.urlSafe then (if c = '+' then '-' else if c = '/' then '_' else c) else c

/-- The digits of the standard alphabet, with their padding or without. -/
def plain (bytes : List UInt8) : List Char :=
  if form.padded then b64Chars bytes else b64Data bytes

/-- The lines of the form. -/
def body (bytes : List UInt8) : List Char :=
  wrap form.newline form.width ((form.plain bytes).map form.digit)

/-- The `base64` form of a text. -/
def encode (text : String) : String :=
  String.ofList (form.before ++ form.body (utf8 text) ++ form.after)

/-- The padding is there, or it can be told from the length of the text with its line breaks: they
do not make it seem longer than it is by so much that too little padding is added. -/
def Fits (n : ℕ) : Prop :=
  form.padded = true
    ∨ padding n ≤ (4 - ((4 * n + 2) / 3
      + form.newline.length * (((4 * n + 2) / 3 - 1) / form.width)) % 4) % 4

end Base64Form

/-- `replace('-', '+').replace('_', '/')`. -/
def standardDigit (c : Char) : Char := if c = '-' then '+' else if c = '_' then '/' else c

/-- `c` is a digit, or the padding. -/
lemma b64Chars_facts {bytes : List UInt8} {c : Char} (h : c ∈ b64Chars bytes) :
    isBase64 c = true ∧ c ≠ '-' ∧ c ≠ '_' ∧ c ≠ ':' ∧ isSpace c = false := by
  have hdigit : ∀ n < 64, isBase64 (b64Digit n) = true ∧ b64Digit n ≠ '-' ∧ b64Digit n ≠ '_'
      ∧ b64Digit n ≠ ':' ∧ isSpace (b64Digit n) = false := by decide
  rcases mem_b64Chars h with rfl | ⟨n, hn, rfl⟩
  · decide
  · exact hdigit n hn

lemma mem_b64Chars_of_data {bytes : List UInt8} {c : Char} (h : c ∈ b64Data bytes) :
    c ∈ b64Chars bytes := by
  rw [b64Chars_eq]
  exact List.mem_append_left _ h

/-- A space is none of the characters of a form. -/
lemma facts_of_isSpace {c : Char} (h : isSpace c) :
    isBase64 c = false ∧ standardDigit c = c ∧ c ≠ ':' := by
  have hne : ∀ d : Char, isSpace d = false → c ≠ d := by
    rintro d hd rfl
    rw [h] at hd
    cases hd
  have hrange : c.toNat < 0x2b ∨ 0x7a < c.toNat := by
    simp only [isSpace, Bool.or_eq_true, decide_eq_true_eq] at h
    omega
  have hvalue : b64Value? c = none := by
    rw [b64Value?]
    split_ifs with hupper hlower hdigit hplus hslash
    · have hbounds : 0x41 ≤ c.toNat ∧ c.toNat ≤ 0x5a := hupper
      omega
    · have hbounds : 0x61 ≤ c.toNat ∧ c.toNat ≤ 0x7a := hlower
      omega
    · have hbounds : 0x30 ≤ c.toNat ∧ c.toNat ≤ 0x39 := hdigit
      omega
    · exact absurd hplus (hne '+' (by decide))
    · exact absurd hslash (hne '/' (by decide))
    · rfl
  refine ⟨?_, ?_, hne ':' (by decide)⟩
  · simp [isBase64, hvalue, hne '=' (by decide)]
  · rw [standardDigit, if_neg (hne '-' (by decide)), if_neg (hne '_' (by decide))]

namespace Base64Form

variable (form : Base64Form) (bytes : List UInt8)

lemma plain_subset : form.plain bytes ⊆ b64Chars bytes := by
  intro c hc
  rw [plain] at hc
  split_ifs at hc
  · exact hc
  · exact mem_b64Chars_of_data hc

/-- The alphabet is undone. -/
lemma map_standardDigit_body :
    (form.body bytes).map standardDigit = wrap form.newline form.width (form.plain bytes) := by
  have hnewline : form.newline.map standardDigit = form.newline :=
    (List.map_congr_left fun c hc => (facts_of_isSpace (form.newline_space c hc)).2.1).trans
      (List.map_id _)
  have hback : ((form.plain bytes).map form.digit).map standardDigit = form.plain bytes := by
    rw [List.map_map]
    refine (List.map_congr_left fun c hc => ?_).trans (List.map_id _)
    obtain ⟨-, hminus, hunderscore, -⟩ := b64Chars_facts (form.plain_subset bytes hc)
    simp only [Function.comp, digit, standardDigit, id]
    split_ifs <;> simp_all
  rw [body, map_wrap _ hnewline, hback]

/-- What is written is no space and no colon. -/
lemma digit_facts {c : Char} (hc : c ∈ (form.plain bytes).map form.digit) :
    isSpace c = false ∧ c ≠ ':' := by
  obtain ⟨d, hd, rfl⟩ := List.mem_map.mp hc
  obtain ⟨-, -, -, hcolon, hspace⟩ := b64Chars_facts (form.plain_subset bytes hd)
  rw [digit]
  split_ifs
  · decide
  · decide
  · exact ⟨hspace, hcolon⟩
  · exact ⟨hspace, hcolon⟩

/-- The spaces around the lines are the spaces around the text. -/
lemma stripChars_encode (text : String) :
    stripChars (form.encode text).toList = form.body (utf8 text) := by
  obtain ⟨hhead, hlast⟩ := ends_wrap form.newline form.width
    ((form.plain (utf8 text)).map form.digit)
  rw [encode, String.toList_ofList]
  refine stripChars_surrounded form.before_space form.after_space (fun c hc => ?_) fun c hc => ?_
  · rw [body, hhead] at hc
    exact (form.digit_facts _ (List.mem_of_mem_head? hc)).1
  · rw [body, hlast] at hc
    exact (form.digit_facts _ (List.mem_of_mem_getLast? hc)).1

lemma colon_notMem_body : ':' ∉ form.body bytes := by
  intro hmem
  rcases mem_wrap hmem with h | h
  · exact (facts_of_isSpace (form.newline_space _ h)).2.2 rfl
  · exact (form.digit_facts bytes h).2 rfl

instance (n : ℕ) : Decidable (form.Fits n) := inferInstanceAs (Decidable (_ ∨ _))

/-- **Repaired as if it was one line, a form is decoded exactly if it fits.** -/
theorem a2bBase64_body (clean : List Char)
    (hclean : clean = (form.body bytes).map standardDigit) :
    a2bBase64 0 0 0 (clean ++ List.replicate ((4 - clean.length % 4) % 4) '=')
      = if form.Fits bytes.length then some bytes else none := by
  have hnewline : form.newline.filter isBase64 = [] := by
    rw [List.filter_eq_nil_iff]
    intro c hc
    rw [(facts_of_isSpace (form.newline_space c hc)).1]
    exact Bool.false_ne_true
  have hplain : (form.plain bytes).filter isBase64 = form.plain bytes :=
    List.filter_eq_self.mpr fun c hc => (b64Chars_facts (form.plain_subset bytes hc)).1
  have hpads : ∀ p : ℕ, (List.replicate p '=').filter isBase64 = List.replicate p '=' := fun p =>
    List.filter_eq_self.mpr fun c hc => by rw [List.eq_of_mem_replicate hc]; rfl
  rw [hclean, map_standardDigit_body, ← a2bBase64_filter, List.filter_append, filter_wrap hnewline,
    hplain, hpads, length_wrap, plain]
  cases hpadded : form.padded with
  | true =>
      rw [if_pos rfl, b64Chars_eq, List.append_assoc, List.replicate_append_replicate,
        a2bBase64_data, if_pos (Nat.le_add_right _ _), if_pos (.inl hpadded)]
  | false =>
      have hfits : form.Fits bytes.length ↔ padding bytes.length
          ≤ (4 - ((4 * bytes.length + 2) / 3 + form.newline.length
            * (((4 * bytes.length + 2) / 3 - 1) / form.width)) % 4) % 4 := by
        rw [Fits, hpadded]
        simp
      rw [if_neg Bool.false_ne_true, a2bBase64_data, length_b64Data]
      simp only [hfits]

end Base64Form

end PyText
