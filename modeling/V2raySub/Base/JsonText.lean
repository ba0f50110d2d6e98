import V2raySub.Base.Fields

/-!
The JSON text of a dictionary of texts.

* `JsonText.print`: the fields in the order of their keys, as a sorted map is written.
* `JsonText.read?`: reads it; `get?_read_print` says that every lookup gives what it gave before.
-/

namespace JsonText

/-- What stands around a text. -/
def quote : Char := Char.ofNat 0x22

/-- What stands before a quote in a text, and before another of its kind. -/
def escape : Char := Char.ofNat 0x5c

/-! ### Texts -/

/-- A text between its quotes. -/
def printChars : List Char → List Char
  | [] => []
  | c :: cs => if c = quote ∨ c = escape then escape :: c :: printChars cs else c :: printChars cs

/-- The text up to the quote that ends it, and what follows. -/
def readChars : Bool → List Char → Option (List Char × List Char)
  | _, [] => none
  | true, c :: cs => (readChars false cs).map fun (text, rest) => (c :: text, rest)
  | false, c :: cs =>
    if c = quote then some ([], cs)
    else if c = escape then readChars true cs
    else (readChars false cs).map fun (text, rest) => (c :: text, rest)

/-- A text ends where it was closed, whatever it holds. -/
lemma readChars_printChars (cs rest : List Char) :
    readChars false (printChars cs ++ quote :: rest) = some (cs, rest) := by
  induction cs with
  | nil => rw [printChars, List.nil_append, readChars, if_pos rfl]
  | cons c cs ih =>
      rw [printChars]
      split_ifs with hc
      · rw [List.cons_append, List.cons_append, readChars, if_neg (by decide), if_pos rfl,
          readChars, ih, Option.map_some]
      · rw [not_or] at hc
        rw [List.cons_append, readChars, if_neg hc.1, if_neg hc.2, ih, Option.map_some]

/-- A text with its quotes. -/
def printText (s : String) : List Char := quote :: (printChars s.toList ++ [quote])

def readText : List Char → Option (String × List Char)
  | [] => none
  | c :: cs =>
    if c = quote then (readChars false cs).map fun (text, rest) => (String.ofList text, rest)
    else none

/-- A text is read back, whatever follows it. -/
lemma readText_printText (s : String) (rest : List Char) :
    readText (printText s ++ rest) = some (s, rest) := by
  rw [printText, List.cons_append, List.append_assoc, List.singleton_append, readText, if_pos rfl,
    readChars_printChars]
  simp only [Option.map_some, String.ofList_toList]

/-! ### Fields -/

/-- A key and its text. -/
def printField (f : String × String) : List Char := printText f.1 ++ ':' :: printText f.2

def readField (cs : List Char) : Option ((String × String) × List Char) :=
  match readText cs with
  | some (key, ':' :: cs) => (readText cs).map fun (value, rest) => ((key, value), rest)
  | _ => none

/-- A field is read back, whatever follows it. -/
lemma readField_printField (f : String × String) (rest : List Char) :
    readField (printField f ++ rest) = some (f, rest) := by
  rw [printField, List.append_assoc, List.cons_append, readField, readText_printText]
  simp only [readText_printText, Option.map_some]

/-- The fields after the first. -/
def printRest : List (String × String) → List Char
  | [] => ['}']
  | f :: fs => ',' :: (printField f ++ printRest fs)

/-- At most `n` fields. -/
def readRest : ℕ → List Char → Option (List (String × String))
  | _, ['}'] => some []
  | n + 1, ',' :: cs => (readField cs).bind fun (f, rest) => (readRest n rest).map (f :: ·)
  | _, _ => none

/-- All of them are read back. -/
lemma readRest_printRest (fs : List (String × String)) {n : ℕ} (hn : fs.length ≤ n) :
    readRest n (printRest fs) = some fs := by
  induction fs generalizing n with
  | nil => simp [printRest, readRest]
  | cons f fs ih =>
      cases n with
      | zero => exact absurd hn (Nat.not_succ_le_zero _)
      | succ n =>
          rw [printRest, readRest, readField_printField, Option.bind_some]
          simp only [ih (Nat.le_of_succ_le_succ hn), Option.map_some]

/-- The text is longer than the list, so that its length bounds the fields in it. -/
lemma length_printRest (fs : List (String × String)) : fs.length < (printRest fs).length := by
  induction fs with
  | nil => simp [printRest]
  | cons f fs ih =>
      simp only [printRest, List.length_cons, List.length_append]
      omega

/-- An object. -/
def printFields : List (String × String) → List Char
  | [] => ['{', '}']
  | f :: fs => '{' :: (printField f ++ printRest fs)

def readFields : List Char → Option (List (String × String))
  | ['{', '}'] => some []
  | '{' :: cs => (readField cs).bind fun (f, rest) => (readRest rest.length rest).map (f :: ·)
  | _ => none

/-- An object is read back. -/
lemma readFields_printFields (fs : List (String × String)) :
    readFields (printFields fs) = some fs := by
  cases fs with
  | nil => rfl
  | cons f fs =>
      have hrest : readRest (printRest fs).length (printRest fs) = some fs :=
        readRest_printRest fs (length_printRest fs).le
      rw [printFields, readFields, readField_printField, Option.bind_some]
      · simp only [hrest, Option.map_some]
      · simp [printField, printText]

/-! ### Dictionaries -/

/-- The field at its place among the others. -/
def insertField (k : String) (s : String) : List (String × String) → List (String × String)
  | [] => [(k, s)]
  | f :: fs =>
    if f.1 = k then (k, s) :: fs else if k < f.1 then (k, s) :: f :: fs
    else f :: insertField k s fs

/-- The texts of a dictionary in the order of their keys. -/
def sortedTexts : Dict → List (String × String)
  | [] => []
  | (k, .str s) :: d => insertField k s (sortedTexts d)
  | _ :: d => sortedTexts d

/-- The dictionary of these texts. -/
def ofTexts (fs : List (String × String)) : Dict := fs.map fun f => (f.1, .str f.2)

/-- Wherever the field is put, a lookup finds it. -/
lemma get?_insertField (k s k' : String) (fs : List (String × String)) :
    Dict.get? (ofTexts (insertField k s fs)) k'
      = if k = k' then some (.str s) else Dict.get? (ofTexts fs) k' := by
  induction fs with
  | nil => exact Dict.get?_cons k (.str s) [] k'
  | cons f fs ih =>
      rw [ofTexts] at ih ⊢
      rw [insertField]
      split_ifs with hf hlt hk hk hk <;>
        simp only [List.map_cons, Dict.get?_cons, ih, ofTexts] <;> grind

/-- The order does not matter to a lookup. -/
lemma get?_sortedTexts {d : Dict} (hd : d.OfTexts) (k : String) :
    Dict.get? (ofTexts (sortedTexts d)) k = d.get? k := by
  induction d with
  | nil => rfl
  | cons f d ih =>
      obtain ⟨s, hs⟩ := hd f List.mem_cons_self
      obtain ⟨key, value⟩ := f
      cases hs
      rw [sortedTexts, get?_insertField, ih fun g hg => hd g (List.mem_cons_of_mem _ hg),
        Dict.get?_cons]

/-- The text of a dictionary. -/
def print (d : Dict) : String := String.ofList (printFields (sortedTexts d))

/-- The dictionary of a text. -/
def read? (text : String) : Option Dict := (readFields text.toList).map ofTexts

lemma print_ne_empty (d : Dict) : print d ≠ "" := by
  intro h
  have hchars : printFields (sortedTexts d) = [] := by simpa [print] using congrArg String.toList h
  cases hfs : sortedTexts d <;> simp [hfs, printFields] at hchars

/-- **A dictionary of texts is read back**, up to the order of its fields. -/
theorem get?_read_print {d : Dict} (hd : d.OfTexts) :
    ∃ d', read? (print d) = some d' ∧ ∀ k, d'.get? k = d.get? k := by
  refine ⟨ofTexts (sortedTexts d), ?_, get?_sortedTexts hd⟩
  rw [read?, print, String.toList_ofList, readFields_printFields, Option.map_some]

end JsonText
