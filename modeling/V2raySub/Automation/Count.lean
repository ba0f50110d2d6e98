import Mathlib.Data.List.Dedup
import V2raySub.Automation.IdentityKey
import V2raySub.Base.Base64Forms

/-!
How many configs a subscription has (`utils/config_parser.py`, `_scheme_lines` and
`count_configs_in_text`): as it stands, or in `base64`.

* `schemeLines_strip`, `schemeLines_eq_nil`: the lines of configs are those of the text without the
  spaces around it, and a text without a colon has none.
* `safeB64decode_encode`: what is decoded of a `base64` form.
* `count_encode_iff`: **a form has as many configs as the text**, exactly if it `Fits`.
-/

namespace V2raySub

/-- `_scheme_lines`. -/
def schemeLines (text : String) : List String :=
  (PyText.strippedLines matchesConfigScheme text.toList).map String.ofList

/-- `len({_config_identity_key(line) for line in lines})`. -/
def countKeys (lib : KeyLib) (lines : List String) : ℕ :=
  (lines.map (identityKey lib)).dedup.length

/-- `count_configs_in_text`. -/
def countConfigsInText (lib : KeyLib) (rawText : String) : ℕ :=
  if rawText = "" then 0
  else
    let text := PyText.strip rawText
    let lines := schemeLines text
    if lines = [] then
      match safeB64decode lib.toConfigLib text with
      | some decoded =>
        countKeys lib (if decoded = "" then lines else schemeLines decoded)
      | none => countKeys lib lines
    else countKeys lib lines

/-! ### The lines of configs -/

lemma schemeLines_strip (text : String) : schemeLines (PyText.strip text) = schemeLines text := by
  rw [schemeLines, schemeLines, PyText.strip, String.toList_ofList,
    PyText.strippedLines_stripChars (by decide)]

/-- A line of a config has a colon. -/
lemma schemeLines_eq_nil {text : String} (h : ':' ∉ text.toList) : schemeLines text = [] := by
  rw [schemeLines, List.map_eq_nil_iff, List.eq_nil_iff_forall_not_mem]
  intro line hline
  obtain ⟨name, rest, hname, -⟩ := exists_name (List.mem_filter.mp hline).2
  exact h (PyText.mem_of_mem_strippedLines hline (by simp [hname]))

lemma ne_empty_of_schemeLines {text : String} (h : schemeLines text ≠ []) : text ≠ "" := by
  rintro rfl
  exact h (schemeLines_eq_nil (by simp))

lemma countKeys_eq_zero_iff {lib : KeyLib} {lines : List String} :
    countKeys lib lines = 0 ↔ lines = [] := by
  rw [countKeys, List.length_eq_zero_iff, List.dedup_eq_nil, List.map_eq_nil_iff]

/-! ### The text and its forms -/

/-- The forms of a text are not empty, as that would be decoded to nothing. -/
lemma encode_ne_empty (form : PyText.Base64Form) {text : String} (hne : text ≠ "") :
    form.encode text ≠ "" := by
  intro hempty
  have hbody := form.stripChars_encode text
  rw [hempty] at hbody
  have hdecoded := form.a2bBase64_body (PyText.utf8 text) [] (by rw [← hbody]; rfl)
  split_ifs at hdecoded
  · have htext := PyText.decodeUtf8?_utf8 text
    rw [← Option.some.inj hdecoded] at htext
    exact hne (Option.some.inj htext).symm
  · cases hdecoded

section

variable {lib : KeyLib} {text : String} (htext : schemeLines text ≠ [])

/-- A text with lines of configs is counted as it stands. -/
lemma count_of_schemeLines (htext : schemeLines text ≠ []) :
    countConfigsInText lib text = countKeys lib (schemeLines text) := by
  rw [countConfigsInText, if_neg (ne_empty_of_schemeLines htext)]
  simp only [schemeLines_strip, if_neg htext]

variable (hlib : lib.b64decode = PyText.b64decode?) (form : PyText.Base64Form)
include hlib

/-- What is decoded of a form: the text, exactly if it fits. -/
lemma safeB64decode_encode :
    safeB64decode lib.toConfigLib (PyText.strip (form.encode text))
      = if form.Fits (PyText.utf8 text).length then some text else none := by
  have hclean : (PyText.stripChars (PyText.strip (form.encode text)).toList).map
      (fun c => if c = '-' then '+' else if c = '_' then '/' else c)
        = (form.body (PyText.utf8 text)).map PyText.standardDigit := by
    rw [PyText.strip, String.toList_ofList, PyText.stripChars_stripChars, form.stripChars_encode]
    rfl
  have hpads : ∀ clean : List Char,
      (if clean.length % 4 = 0 then clean
        else clean ++ List.replicate (4 - clean.length % 4) '=')
        = clean ++ List.replicate ((4 - clean.length % 4) % 4) '=' := by
    intro clean
    split_ifs with hzero
    · simp [hzero]
    · rw [Nat.mod_eq_of_lt (by omega : 4 - clean.length % 4 < 4)]
  simp only [safeB64decode, hpads, hlib, PyText.b64decode?, String.toList_ofList]
  rw [form.a2bBase64_body _ _ hclean]
  split_ifs
  · rw [Option.bind_some, PyText.decodeUtf8?_utf8]
  · rfl

include htext

/-- **A form has as many configs as the text** exactly if it fits. -/
theorem count_encode_iff :
    countConfigsInText lib (form.encode text) = countConfigsInText lib text
      ↔ form.Fits (PyText.utf8 text).length := by
  have hne := ne_empty_of_schemeLines htext
  have hnone : schemeLines (PyText.strip (form.encode text)) = [] := by
    refine schemeLines_eq_nil ?_
    rw [PyText.strip, String.toList_ofList, form.stripChars_encode]
    exact form.colon_notMem_body _
  have hform : form.encode text ≠ "" := encode_ne_empty form hne
  rw [count_of_schemeLines htext, countConfigsInText, if_neg hform]
  simp only [hnone, if_true, safeB64decode_encode hlib form]
  by_cases hfits : form.Fits (PyText.utf8 text).length
  · simp only [hfits, if_true, if_neg hne]
  · have hzero : countKeys lib [] = 0 := countKeys_eq_zero_iff.mpr rfl
    have hpos : countKeys lib (schemeLines text) ≠ 0 := fun h => htext (countKeys_eq_zero_iff.mp h)
    simp only [hfits, if_false, hzero, iff_false]
    exact hpos.symm

end

/-- Without padding, in the URL-safe alphabet, in lines of `width`. -/
def sampleForm (width : ℕ) : PyText.Base64Form where
  urlSafe := true
  padded := false
  width := width
  newline := ['\n']
  before := [' ']
  after := ['\n']
  newline_space := List.forall_mem_singleton.mpr rfl
  before_space := List.forall_mem_singleton.mpr rfl
  after_space := List.forall_mem_singleton.mpr rfl

theorem count_encode_iff_sample :
    countConfigsInText sampleKeyLib ((sampleForm 4).encode "ss://a@b")
        = countConfigsInText sampleKeyLib "ss://a@b"
      ↔ (sampleForm 4).Fits (PyText.utf8 "ss://a@b").length :=
  count_encode_iff (by decide) rfl (sampleForm 4)

/-- A line break makes a text without padding as long as one that needs none. -/
theorem wrapped_counts_nothing :
    schemeLines "ss://a@b" ≠ []
      ∧ (sampleForm 10).encode "ss://a@b" = " c3M6Ly9hQG\nI\n"
      ∧ countConfigsInText sampleKeyLib "ss://a@b" = 1
      ∧ countConfigsInText sampleKeyLib ((sampleForm 10).encode "ss://a@b") = 0 := by
  refine ⟨by decide, by decide +kernel, by decide +kernel, by decide +kernel⟩

end V2raySub
