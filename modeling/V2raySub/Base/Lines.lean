import Mathlib.Data.List.Basic
import Mathlib.Data.List.TakeWhile
import Mathlib.Tactic.Common
import V2raySub.Base.PyText

/-!
Lines (`str.splitlines`), and what spaces around a text and around a line change of them.

* `stripChars_surrounded`: `strip` takes the spaces around a text away.
* `strippedLines_stripChars`: lines that are told by what `strip` leaves of them are the same with
  and without the spaces around the text.
-/

namespace PyText

/-! ### Spaces around a text -/

/-- A space in front goes. -/
lemma stripChars_cons {c : Char} (hc : isSpace c) (cs : List Char) :
    stripChars (c :: cs) = stripChars cs := by
  rw [stripChars, stripChars, List.dropWhile_cons_of_pos hc]

/-- A space at the end goes. -/
lemma stripChars_concat {c : Char} (hc : isSpace c) (cs : List Char) :
    stripChars (cs ++ [c]) = stripChars cs := by
  rw [stripChars, stripChars, List.dropWhile_append]
  split_ifs with hempty
  · rw [List.isEmpty_iff] at hempty
    rw [hempty, List.dropWhile_cons_of_pos hc]
    rfl
  · rw [List.reverse_append, List.reverse_singleton, List.singleton_append,
      List.dropWhile_cons_of_pos hc]

/-- A text that begins and ends with no space, between spaces. -/
lemma stripChars_surrounded {before cs after : List Char} (hbefore : ∀ c ∈ before, isSpace c)
    (hafter : ∀ c ∈ after, isSpace c) (hhead : ∀ c ∈ cs.head?, isSpace c = false)
    (hlast : ∀ c ∈ cs.getLast?, isSpace c = false) :
    stripChars (before ++ cs ++ after) = cs := by
  have hcore : stripChars cs = cs := by
    rw [stripChars, dropWhile_isSpace_eq_self hhead, dropWhile_isSpace_eq_self,
      List.reverse_reverse]
    rwa [List.head?_reverse]
  have hfront : stripChars (before ++ cs) = cs := by
    induction before with
    | nil => exact hcore
    | cons c before ih =>
        obtain ⟨hc, hbefore⟩ := List.forall_mem_cons.mp hbefore
        rw [List.cons_append, stripChars_cons hc, ih hbefore]
  induction after using List.reverseRecOn with
  | nil => rwa [List.append_nil]
  | append_singleton after c ih =>
      rw [List.forall_mem_append] at hafter
      rw [← List.append_assoc, stripChars_concat (hafter.2 c List.mem_cons_self), ih hafter.1]

/-- Every text stands between spaces. -/
lemma exists_surrounded (cs : List Char) : ∃ before after : List Char,
    cs = before ++ stripChars cs ++ after ∧ (∀ c ∈ before, isSpace c)
      ∧ ∀ c ∈ after, isSpace c := by
  refine ⟨cs.takeWhile isSpace,
    ((cs.dropWhile isSpace).reverse.takeWhile isSpace).reverse, ?_, fun c hc => ?_, fun c hc => ?_⟩
  · rw [stripChars, List.append_assoc, ← List.reverse_append, List.takeWhile_append_dropWhile,
      List.reverse_reverse, List.takeWhile_append_dropWhile]
  · exact List.mem_takeWhile_imp hc
  · exact List.mem_takeWhile_imp (List.mem_reverse.mp hc)

/-! ### Lines -/

/-- The boundaries of `splitlines`. -/
def isLineBreak (c : Char) : Bool :=
  let n := c.toNat
  (0xa ≤ n ∧ n ≤ 0xd) || (0x1c ≤ n ∧ n ≤ 0x1e) || n = 0x85 || n = 0x2028 || n = 0x2029

/-- A character in front of lines. -/
def consLine (c : Char) : List (List Char) → List (List Char)
  | [] => [[c]]
  | line :: lines => (c :: line) :: lines

/-- `text.splitlines()`. -/
def splitLines : List Char → List (List Char)
  | [] => []
  | '\r' :: '\n' :: cs => [] :: splitLines cs
  | c :: cs => if isLineBreak c then [] :: splitLines cs else consLine c (splitLines cs)

/-- A break ends a line, the first half of `\r\n` apart. -/
lemma splitLines_break {c : Char} (hc : isLineBreak c) {cs : List Char}
    (h : c = '\r' → cs.head? ≠ some '\n') : splitLines (c :: cs) = [] :: splitLines cs := by
  rw [splitLines, if_pos hc]
  rintro rest rfl rfl
  exact h rfl rfl

/-- Another character goes to the first line. -/
lemma splitLines_cons {c : Char} (hc : isLineBreak c = false) (cs : List Char) :
    splitLines (c :: cs) = consLine c (splitLines cs) := by
  rw [splitLines, hc, if_neg Bool.false_ne_true]
  rintro rest rfl rfl
  exact absurd hc (by decide)

/-- The characters of the lines are those of the text. -/
lemma mem_of_mem_splitLines {cs line : List Char} (h : line ∈ splitLines cs) : line ⊆ cs := by
  induction cs using splitLines.induct generalizing line with
  | case1 => cases h
  | case2 cs ih =>
      rw [splitLines] at h
      rcases List.mem_cons.mp h with rfl | h
      · exact List.nil_subset _
      · exact fun c hc => List.mem_cons_of_mem _ (List.mem_cons_of_mem _ (ih h hc))
  | case3 c cs hne hbreak ih =>
      rw [splitLines, if_pos hbreak] at h
      · rcases List.mem_cons.mp h with rfl | h
        · exact List.nil_subset _
        · exact List.subset_cons_of_subset _ (ih h)
      · exact hne
  | case4 c cs hne hbreak ih =>
      rw [splitLines_cons (by simpa using hbreak)] at h
      cases hlines : splitLines cs with
      | nil =>
          rw [hlines, consLine, List.mem_singleton] at h
          rw [h]
          exact List.cons_subset_cons _ (List.nil_subset _)
      | cons first lines =>
          rw [hlines] at h ih
          rcases List.mem_cons.mp h with rfl | h
          · exact List.cons_subset_cons _ (ih List.mem_cons_self)
          · exact List.subset_cons_of_subset _ (ih (List.mem_cons_of_mem _ h))

/-- The lines of a text with one character more: that is a line of its own, a boundary, or it goes
to the last line. -/
inductive Longer (c : Char) : List (List Char) → List (List Char) → Prop
  | ended (lines : List (List Char)) : Longer c lines lines
  | line (lines : List (List Char)) {line : List Char} (h : line = [] ∨ line = [c]) :
      Longer c lines (lines ++ [line])
  | char (lines : List (List Char)) (line : List Char) :
      Longer c (lines ++ [line]) (lines ++ [line ++ [c]])

lemma Longer.cons {c : Char} {lines lines' : List (List Char)} (h : Longer c lines lines')
    (first : List Char) : Longer c (first :: lines) (first :: lines') := by
  cases h with
  | ended => exact .ended _
  | line _ hline => exact .line (first :: lines) hline
  | char lines line => exact .char (first :: lines) line

lemma Longer.consLine {c : Char} {lines lines' : List (List Char)} (h : Longer c lines lines')
    (d : Char) : Longer c (consLine d lines) (consLine d lines') := by
  cases h with
  | ended => exact .ended _
  | line _ hline =>
      cases lines with
      | nil =>
          rcases hline with rfl | rfl
          · exact .ended [[d]]
          · exact .char [] [d]
      | cons first lines => exact .line ((d :: first) :: lines) hline
  | char lines line =>
      cases lines with
      | nil => exact .char [] (d :: line)
      | cons first lines => exact .char ((d :: first) :: lines) line

/-- A character at the end of a text changes its last line alone. -/
lemma longer_splitLines (c : Char) (cs : List Char) :
    Longer c (splitLines cs) (splitLines (cs ++ [c])) := by
  induction cs using splitLines.induct with
  | case1 =>
      rw [List.nil_append, splitLines]
      cases hc : isLineBreak c with
      | true =>
          rw [splitLines_break hc fun _ => by simp]
          exact .line [] (.inl rfl)
      | false =>
          rw [splitLines_cons hc]
          exact .line [] (.inr rfl)
  | case2 cs ih =>
      simp only [List.cons_append, splitLines]
      exact ih.cons []
  | case3 d cs hne hbreak ih =>
      have hcs : d = '\r' → cs.head? ≠ some '\n' := by
        rintro rfl hhead
        cases cs with
        | nil => cases hhead
        | cons e cs => exact hne cs rfl (by rw [Option.some.inj hhead])
      rw [splitLines_break hbreak hcs, List.cons_append]
      by_cases hcrlf : d = '\r' ∧ cs = [] ∧ c = '\n'
      · obtain ⟨rfl, rfl, rfl⟩ := hcrlf
        exact .ended _
      · rw [splitLines_break hbreak]
        · exact ih.cons []
        · intro hd hhead
          cases cs with
          | nil => exact hcrlf ⟨hd, rfl, Option.some.inj hhead⟩
          | cons e cs => exact hcs hd hhead
  | case4 d cs hne hbreak ih =>
      have hd : isLineBreak d = false := by simpa using hbreak
      rw [List.cons_append, splitLines_cons hd, splitLines_cons hd]
      exact ih.consLine d

/-! ### Lines that are told by their text -/

/-- The lines that a test of their text lets through, without the spaces around them. -/
def strippedLines (test : List Char → Bool) (cs : List Char) : List (List Char) :=
  ((splitLines cs).map stripChars).filter test

section

variable {test : List Char → Bool} (htest : test [] = false) {c : Char} (hc : isSpace c)
  (cs : List Char)
include htest hc

/-- A space before the text changes no line that is told by its stripped text. -/
lemma strippedLines_cons : strippedLines test (c :: cs) = strippedLines test cs := by
  have hnil : ∀ lines : List (List Char),
      (([] :: lines).map stripChars).filter test = (lines.map stripChars).filter test := by
    intro lines
    rw [List.map_cons, List.filter_cons_of_neg]
    simpa [stripChars] using htest
  rw [strippedLines, strippedLines]
  by_cases hcrlf : c = '\r' ∧ cs.head? = some '\n'
  · obtain ⟨rfl, hhead⟩ := hcrlf
    cases cs with
    | nil => cases hhead
    | cons d cs =>
        rw [Option.some.inj hhead, splitLines, splitLines_break (by decide) fun h => by cases h]
  · rw [not_and] at hcrlf
    cases hbreak : isLineBreak c with
    | true => rw [splitLines_break hbreak hcrlf, hnil]
    | false =>
        rw [splitLines_cons hbreak]
        cases splitLines cs with
        | nil => simpa [consLine, stripChars, hc] using htest
        | cons line lines => rw [consLine, List.map_cons, List.map_cons, stripChars_cons hc]

lemma Longer.filter_eq {lines lines' : List (List Char)} (h : Longer c lines lines') :
    (lines'.map stripChars).filter test = (lines.map stripChars).filter test := by
  cases h with
  | ended => rfl
  | line _ hline =>
      have hblank : ∀ line : List Char, line = [] ∨ line = [c] → stripChars line = [] := by
        rintro line (rfl | rfl)
        · rfl
        · exact stripChars_cons hc []
      rw [List.map_append, List.filter_append, List.map_singleton, hblank _ hline,
        List.filter_cons_of_neg (by simp [htest]), List.filter_nil, List.append_nil]
  | char lines line =>
      rw [List.map_append, List.map_append, List.map_singleton, List.map_singleton,
        stripChars_concat hc]

/-- Nor does one behind it. -/
lemma strippedLines_concat : strippedLines test (cs ++ [c]) = strippedLines test cs :=
  Longer.filter_eq htest hc (longer_splitLines c cs)

end

/-- The spaces around a text change none of them. -/
theorem strippedLines_stripChars {test : List Char → Bool} (htest : test [] = false)
    (cs : List Char) : strippedLines test (stripChars cs) = strippedLines test cs := by
  obtain ⟨before, after, hcs, hbefore, hafter⟩ := exists_surrounded cs
  have hfront : ∀ before ls : List Char, (∀ c ∈ before, isSpace c) →
      strippedLines test (before ++ ls) = strippedLines test ls := by
    intro before ls h
    induction before with
    | nil => rfl
    | cons c before ih =>
        obtain ⟨hc, h⟩ := List.forall_mem_cons.mp h
        rw [List.cons_append, strippedLines_cons htest hc, ih h]
  have hback : ∀ after ls : List Char, (∀ c ∈ after, isSpace c) →
      strippedLines test (ls ++ after) = strippedLines test ls := by
    intro after ls h
    induction after using List.reverseRecOn with
    | nil => rw [List.append_nil]
    | append_singleton after c ih =>
        rw [List.forall_mem_append] at h
        rw [← List.append_assoc, strippedLines_concat htest (h.2 c List.mem_cons_self), ih h.1]
  rw [← hfront before _ hbefore, ← hback after _ hafter, ← hcs]

/-- The characters of such a line are those of the text. -/
lemma mem_of_mem_strippedLines {test : List Char → Bool} {cs line : List Char}
    (h : line ∈ strippedLines test cs) : line ⊆ cs := by
  obtain ⟨whole, hwhole, rfl⟩ := List.mem_map.mp (List.mem_filter.mp h).1
  obtain ⟨before, after, hcs, -⟩ := exists_surrounded whole
  intro c hc
  refine mem_of_mem_splitLines hwhole ?_
  rw [hcs]
  exact List.mem_append_left _ (List.mem_append_right _ hc)

end PyText
