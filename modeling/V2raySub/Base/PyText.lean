import Mathlib.Data.List.Infix

/-!
The text functions of the host language that the services call: `str.strip`, `str.lower` as
far as an ASCII search can see it, `needle in text`, `str.split` at a character, and `int()`.
-/

namespace PyText

/-- The code points `str.isspace` accepts. -/
def isSpace (c : Char) : Bool :=
  let n := c.toNat
  (0x9 ≤ n ∧ n ≤ 0xd) || (0x1c ≤ n ∧ n ≤ 0x20) || n = 0x85 || n = 0xa0 || n = 0x1680
    || (0x2000 ≤ n ∧ n ≤ 0x200a) || n = 0x2028 || n = 0x2029 || n = 0x202f || n = 0x205f
    || n = 0x3000

/-- `str.strip()` on the characters. -/
def stripChars (cs : List Char) : List Char :=
  ((cs.dropWhile isSpace).reverse.dropWhile isSpace).reverse

/-- `str.strip()`. -/
def strip (s : String) : String := String.ofList (stripChars s.toList)

lemma head_dropWhile_isSpace (cs : List Char) :
    ∀ c ∈ (cs.dropWhile isSpace).head?, isSpace c = false := by
  intro c hc
  have h := List.head?_dropWhile_not isSpace cs
  rw [Option.mem_def.mp hc] at h
  exact h

/-- What does not start with a space stays as it is. -/
lemma dropWhile_isSpace_eq_self {cs : List Char} (h : ∀ c ∈ cs.head?, isSpace c = false) :
    cs.dropWhile isSpace = cs := by
  cases cs with
  | nil => rfl
  | cons c cs =>
      rw [List.dropWhile_cons, if_neg]
      simp [h c rfl]

/-- A text without spaces stays as it is. -/
lemma stripChars_eq_self {cs : List Char} (h : ∀ c ∈ cs, isSpace c = false) :
    stripChars cs = cs := by
  have hhead : ∀ {l : List Char}, (∀ c ∈ l, isSpace c = false) →
      ∀ c ∈ l.head?, isSpace c = false := fun hl c hc => hl c (List.mem_of_mem_head? hc)
  have hreverse : ∀ c ∈ cs.reverse, isSpace c = false := fun c hc => h c (List.mem_reverse.mp hc)
  rw [stripChars, dropWhile_isSpace_eq_self (hhead h), dropWhile_isSpace_eq_self (hhead hreverse),
    List.reverse_reverse]

@[simp] lemma stripChars_stripChars (cs : List Char) :
    stripChars (stripChars cs) = stripChars cs := by
  have hlast : ∀ c ∈ ((cs.dropWhile isSpace).reverse.dropWhile isSpace).head?,
      isSpace c = false := head_dropWhile_isSpace _
  have hhead : ∀ c ∈ (stripChars cs).head?, isSpace c = false := by
    intro c hc
    -- what is left after the second pass begins as what the first one left
    have hpre : stripChars cs <+: cs.dropWhile isSpace := by
      rw [stripChars, ← List.reverse_suffix, List.reverse_reverse]
      exact List.dropWhile_suffix _
    obtain ⟨t, ht⟩ := hpre
    refine head_dropWhile_isSpace cs c ?_
    rw [← ht]
    cases hs : stripChars cs with
    | nil => simp [hs] at hc
    | cons d ds => simpa [hs] using hc
  rw [stripChars, dropWhile_isSpace_eq_self hhead, stripChars, List.reverse_reverse,
    dropWhile_isSpace_eq_self hlast]

@[simp] lemma strip_strip (s : String) : strip (strip s) = strip s := by
  simp [strip]

/-- `str.lower()` on one character: the ASCII letters, and the two other code points whose
lower case contains an ASCII letter (the Kelvin sign, and the dotted capital I, which becomes
an `i` and a combining dot).  Every other character is left as it is; none of them lowers to
ASCII, so an ASCII needle is found in the result exactly when it is found in the real one. -/
def lowerChar (c : Char) : List Char :=
  if c.toNat = 0x212a then ['k']
  else if c.toNat = 0x130 then ['i', Char.ofNat 0x307]
  else [c.toLower]

/-- `str.lower()`, to be searched for ASCII text. -/
def lower (s : String) : List Char := s.toList.flatMap lowerChar

/-- `needle in text`. -/
def contains (needle : String) (text : List Char) : Bool := needle.toList <:+: text

/-- A comprehension raises where it does for an element. -/
lemma isSome_mapM_iff {α β : Type*} {f : α → Option β} (l : List α) :
    (l.mapM f).isSome ↔ ∀ a ∈ l, (f a).isSome := by
  induction l with
  | nil => simp
  | cons a l ih =>
      rw [List.forall_mem_cons, ← ih, List.mapM_cons]
      cases f a <;> cases l.mapM f <;> simp

/-- `text.split(c)` on the characters. -/
def splitChars (c : Char) : List Char → List (List Char)
  | [] => [[]]
  | x :: xs =>
    if x = c then [] :: splitChars c xs
    else match splitChars c xs with
      | [] => [[x]]
      | w :: ws => (x :: w) :: ws

lemma splitChars_of_notMem {c : Char} {cs : List Char} (h : c ∉ cs) :
    splitChars c cs = [cs] := by
  induction cs with
  | nil => rfl
  | cons x xs ih =>
      rw [List.mem_cons, not_or] at h
      rw [splitChars, if_neg (Ne.symm h.1), ih h.2]

lemma splitChars_ne_nil (c : Char) (cs : List Char) : splitChars c cs ≠ [] := by
  induction cs with
  | nil => exact List.cons_ne_nil _ _
  | cons x xs ih =>
      rw [splitChars]
      split_ifs
      · exact List.cons_ne_nil _ _
      · split <;> exact List.cons_ne_nil _ _

lemma splitChars_append_cons {c : Char} {cs : List Char} (h : c ∉ cs) (rest : List Char) :
    splitChars c (cs ++ c :: rest) = cs :: splitChars c rest := by
  induction cs with
  | nil => rw [List.nil_append, splitChars, if_pos rfl]
  | cons x xs ih =>
      rw [List.mem_cons, not_or] at h
      rw [List.cons_append, splitChars, if_neg (Ne.symm h.1), ih h.2]

/-- The parts have no separator, and their characters are those of the text. -/
lemma of_mem_splitChars {c : Char} {cs w : List Char} (h : w ∈ splitChars c cs) :
    c ∉ w ∧ w ⊆ cs := by
  induction cs generalizing w with
  | nil =>
      rw [splitChars, List.mem_singleton] at h
      rw [h]
      exact ⟨List.not_mem_nil, List.Subset.refl _⟩
  | cons x xs ih =>
      rw [splitChars] at h
      split_ifs at h with hx
      · rcases List.mem_cons.mp h with rfl | h
        · exact ⟨List.not_mem_nil, List.nil_subset _⟩
        · exact ⟨(ih h).1, List.subset_cons_of_subset _ (ih h).2⟩
      · split at h
        · rw [List.mem_singleton] at h
          rw [h, List.mem_singleton]
          exact ⟨Ne.symm hx, List.cons_subset_cons _ (List.nil_subset _)⟩
        next v ws heq =>
          rw [heq] at ih
          rcases List.mem_cons.mp h with rfl | h
          · obtain ⟨hc, hsub⟩ := ih List.mem_cons_self
            refine ⟨fun hmem => ?_, List.cons_subset_cons _ hsub⟩
            rcases List.mem_cons.mp hmem with hcx | hmem
            · exact hx hcx.symm
            · exact hc hmem
          · obtain ⟨hc, hsub⟩ := ih (List.mem_cons_of_mem _ h)
            exact ⟨hc, List.subset_cons_of_subset _ hsub⟩

/-- Every other character is in one of the parts. -/
lemma exists_mem_splitChars {c x : Char} {cs : List Char} (hx : x ∈ cs) (hne : x ≠ c) :
    ∃ w ∈ splitChars c cs, x ∈ w := by
  induction cs with
  | nil => cases hx
  | cons y ys ih =>
      rw [splitChars]
      split_ifs with hy
      · have hys : x ∈ ys := (List.mem_cons.mp hx).resolve_left fun h => hne (h.trans hy)
        obtain ⟨w, hw, hxw⟩ := ih hys
        exact ⟨w, List.mem_cons_of_mem _ hw, hxw⟩
      · cases hparts : splitChars c ys with
        | nil => exact absurd hparts (splitChars_ne_nil c ys)
        | cons v ws =>
            rcases List.mem_cons.mp hx with rfl | hys
            · exact ⟨x :: v, List.mem_cons_self, List.mem_cons_self⟩
            · obtain ⟨w, hw, hxw⟩ := ih hys
              rw [hparts] at hw
              rcases List.mem_cons.mp hw with rfl | hw
              · exact ⟨y :: w, List.mem_cons_self, List.mem_cons_of_mem _ hxw⟩
              · exact ⟨w, List.mem_cons_of_mem _ hw, hxw⟩

/-- `text.split(c)`. -/
def splitOn (c : Char) (s : String) : List String := (splitChars c s.toList).map String.ofList

/-- Texts without the separator, joined and split again. -/
lemma splitOn_intercalate {c : Char} {texts : List String} (hne : texts ≠ [])
    (h : ∀ text ∈ texts, c ∉ text.toList) :
    splitOn c ((String.singleton c).intercalate texts) = texts := by
  induction texts with
  | nil => exact absurd rfl hne
  | cons text texts ih =>
      obtain ⟨htext, hrest⟩ := List.forall_mem_cons.mp h
      cases texts with
      | nil =>
          rw [String.intercalate_singleton, splitOn, splitChars_of_notMem htext,
            List.map_singleton, String.ofList_toList]
      | cons next texts =>
          have hsplit := ih (List.cons_ne_nil _ _) hrest
          rw [splitOn] at hsplit ⊢
          rw [String.intercalate_cons_cons, String.toList_append, String.toList_append,
            String.toList_singleton, List.append_assoc, List.singleton_append,
            splitChars_append_cons htext, List.map_cons, hsplit, String.ofList_toList]

/-! ### Numbers as texts -/

lemma digitChar_inj : ∀ m < 16, ∀ n < 16, Nat.digitChar m = Nat.digitChar n → m = n := by decide

/-- Two numbers with the same digits are the same. -/
lemma toDigits_inj {b : ℕ} (hb : 1 < b) (hb' : b ≤ 16) {m n : ℕ}
    (h : Nat.toDigits b m = Nat.toDigits b n) : m = n := by
  induction m using Nat.strong_induction_on generalizing n with
  | _ m ih =>
      rw [Nat.toDigits_eq_if hb, Nat.toDigits_eq_if (n := n) hb] at h
      have hsingle : ∀ {q : ℕ} {c d : Char}, Nat.toDigits b q ++ [c] ≠ [d] := by
        intro q c d he
        have hlen := congrArg List.length he
        have hpos : 0 < (Nat.toDigits b q).length := Nat.length_toDigits_pos
        simp only [List.length_append, List.length_singleton] at hlen
        omega
      split_ifs at h with hm hn hn
      · exact digitChar_inj m (by omega) n (by omega) (List.singleton_inj.mp h)
      · exact absurd h.symm hsingle
      · exact absurd h hsingle
      · obtain ⟨hdiv, hmod⟩ := List.append_inj' h rfl
        have hm' : m % b < b := Nat.mod_lt _ (by omega)
        have hn' : n % b < b := Nat.mod_lt _ (by omega)
        have hq : m / b = n / b := ih (m / b) (Nat.div_lt_self (by omega) hb) hdiv
        have hr : m % b = n % b :=
          digitChar_inj _ (by omega) _ (by omega) (List.singleton_inj.mp hmod)
        rw [← Nat.div_add_mod m b, ← Nat.div_add_mod n b, hq, hr]

lemma digitChar_of_mem_toDigits {b : ℕ} (hb : 1 < b) {n : ℕ} {c : Char}
    (hc : c ∈ Nat.toDigits b n) : ∃ d < b, c = Nat.digitChar d := by
  induction n using Nat.strong_induction_on with
  | _ n ih =>
      rw [Nat.toDigits_eq_if hb] at hc
      split_ifs at hc with hn
      · exact ⟨n, hn, List.mem_singleton.mp hc⟩
      · rcases List.mem_append.mp hc with hc | hc
        · exact ih (n / b) (Nat.div_lt_self (by omega) hb) hc
        · exact ⟨n % b, Nat.mod_lt _ (by omega), List.mem_singleton.mp hc⟩

lemma toList_toString (n : ℕ) : (toString n).toList = Nat.toDigits 10 n := by
  rw [Nat.toString_eq_ofList_toDigits, String.toList_ofList]

lemma toString_injective : Function.Injective (toString : ℕ → String) := by
  intro m n h
  have hlist := congrArg String.toList h
  rw [toList_toString, toList_toString] at hlist
  exact toDigits_inj (by decide) (by decide) hlist

/-- The zeros of the decimal digit blocks of Unicode. -/
def decimalZeros : List ℕ :=
  [0x30, 0x660, 0x6f0, 0x7c0, 0x966, 0x9e6, 0xa66, 0xae6, 0xb66, 0xbe6, 0xc66, 0xce6, 0xd66,
    0xde6, 0xe50, 0xed0, 0xf20, 0x1040, 0x1090, 0x17e0, 0x1810, 0x1946, 0x19d0, 0x1a80, 0x1a90,
    0x1b50, 0x1bb0, 0x1c40, 0x1c50, 0xa620, 0xa8d0, 0xa900, 0xa9d0, 0xa9f0, 0xaa50, 0xabf0,
    0xff10, 0x104a0, 0x10d30, 0x11066, 0x110f0, 0x11136, 0x111d0, 0x112f0, 0x11450, 0x114d0,
    0x11650, 0x116c0, 0x11730, 0x118e0, 0x11950, 0x11c50, 0x11d50, 0x11da0, 0x11f50, 0x16a60,
    0x16ac0, 0x16b50, 0x1d7ce, 0x1d7d8, 0x1d7e2, 0x1d7ec, 0x1d7f6, 0x1e140, 0x1e2f0, 0x1e4f0,
    0x1e950, 0x1fbf0]

/-- The value of a decimal digit, of any script. -/
def digit? (c : Char) : Option ℕ :=
  (decimalZeros.find? fun z => z ≤ c.toNat && c.toNat < z + 10).map (c.toNat - ·)

/-- The digits of an integer literal, single underscores allowed between them. -/
def digits? : List Char → Option (List ℕ)
  | [] => none
  | [c] => (digit? c).map ([·])
  | c :: '_' :: cs => do return (← digit? c) :: (← digits? cs)
  | c :: cs => do return (← digit? c) :: (← digits? cs)

/-- The most digits `int()` converts. -/
def maxStrDigits : ℕ := 4300

/-- The number a text without sign spells. -/
def natOfChars? (cs : List Char) : Option ℕ := do
  let ds ← digits? cs
  if ds.length ≤ maxStrDigits then some (ds.foldl (fun n d => 10 * n + d) 0) else none

/-- `int(text)`, `none` where it raises `ValueError`. -/
def intOfStr? (s : String) : Option ℤ :=
  match stripChars s.toList with
  | '-' :: cs => (natOfChars? cs).map fun n => -(n : ℤ)
  | '+' :: cs => (natOfChars? cs).map Int.ofNat
  | cs => (natOfChars? cs).map Int.ofNat

end PyText

/-- An argument of a service function, as a form field or a JSON value supplies it.  A float is
given as the integer `int()` truncates it to. -/
inductive PyValue where
  | none
  | bool (b : Bool)
  | int (n : ℤ)
  | str (s : String)
  deriving DecidableEq

/-- `int(value)`, `none` where it raises `TypeError` or `ValueError`. -/
def PyValue.toInt? : PyValue → Option ℤ
  | .none => Option.none
  | .bool b => some b.toNat
  | .int n => some n
  | .str s => PyText.intOfStr? s
