import V2raySub.Base.Json

/-!
Dictionaries that are filled field by field, some of the fields only where there is a value.

* `Dict.setSome`: `if let Some(v) = value { d.insert(k, v) }`.
* `Dict.get?_set_eq`, `Dict.get?_setSome`: what a lookup gives afterwards, for every key at once, so
  that a lookup in a chain of assignments is decided by the names of its keys.
* `Dict.OfTexts`: a dictionary of texts stays one.
-/

namespace Dict

/-- `if let Some(v) = value { d.insert(k, v) }`. -/
def setSome (d : Dict) (k : String) (value : Option Json) : Dict := value.elim d (d.set k)

lemma get?_nil (k : String) : get? [] k = none := rfl

/-- The first item is looked at first. -/
lemma get?_cons (k : String) (v : Json) (d : Dict) (k' : String) :
    get? ((k, v) :: d) k' = if k = k' then some v else get? d k' := by
  by_cases h : k = k'
  · simp [get?, h]
  · simp [get?, h]

/-- A lookup after an assignment. -/
lemma get?_set_eq (d : Dict) (k : String) (v : Json) (k' : String) :
    (d.set k v).get? k' = if k' = k then some v else d.get? k' := by
  by_cases h : k' = k
  · rw [if_pos h, h, get?_set]
  · rw [if_neg h, get?_set_of_ne d h]

/-- A lookup after an assignment that is made only where there is a value. -/
lemma get?_setSome (d : Dict) (k : String) (value : Option Json) (k' : String) :
    (d.setSome k value).get? k' = if k' = k then value.or (d.get? k') else d.get? k' := by
  cases value with
  | none => simp [setSome]
  | some v => simpa [setSome] using get?_set_eq d k v k'

/-- Every value is a text. -/
def OfTexts (d : Dict) : Prop := ∀ f ∈ d, ∃ s, f.2 = .str s

/-- An assignment brings in no other item than its own. -/
lemma mem_of_mem_set {d : Dict} {k : String} {v : Json} {f : String × Json} (h : f ∈ d.set k v) :
    f = (k, v) ∨ f ∈ d := by
  induction d with
  | nil => exact .inl (List.mem_singleton.mp h)
  | cons g d ih =>
      rw [set] at h
      split_ifs at h
      · exact (List.mem_cons.mp h).imp_right (List.mem_cons_of_mem _)
      · rcases List.mem_cons.mp h with rfl | h
        · exact .inr List.mem_cons_self
        · exact (ih h).imp_right (List.mem_cons_of_mem _)

/-- A text is assigned. -/
lemma OfTexts.set {d : Dict} (h : d.OfTexts) (k s : String) : (d.set k (.str s)).OfTexts := by
  intro f hf
  rcases mem_of_mem_set hf with rfl | hf
  · exact ⟨s, rfl⟩
  · exact h f hf

/-- A text is assigned where there is one. -/
lemma OfTexts.setSome {d : Dict} (h : d.OfTexts) (k : String) (value : Option String) :
    (d.setSome k (value.map .str)).OfTexts := by
  cases value with
  | none => exact h
  | some s => exact h.set k s

end Dict
