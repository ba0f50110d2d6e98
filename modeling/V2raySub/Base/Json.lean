import Mathlib.Data.List.Basic
import Mathlib.Tactic.Push
import Mathlib.Data.Int.Notation
import V2raySub.Base.PyText

/-!
JSON documents as the host language reads them: an object is a dictionary, here the list of its
items in order.

* `Dict.get?`, `Dict.set`: `d.get(k)` and `d[k] = v`; `Dict.set_set` says that the last
  assignment to a key is the one that counts.
* `Json.truthy`, `Json.pyStr?`: the truth value and `str()` of what a document holds.
* `Json.Distinct`: no object in the document repeats a key.
-/

/-- A JSON value; a float is kept by its text. -/
inductive Json where
  | null
  | bool (b : Bool)
  | num (n : ℤ)
  | float (text : String)
  | str (s : String)
  | arr (items : List Json)
  | obj (fields : List (String × Json))

/-- The items of a dictionary with JSON values. -/
abbrev Dict := List (String × Json)

/-- `d.get(k)`. -/
def Dict.get? (d : Dict) (k : String) : Option Json := (d.find? fun f => f.1 = k).map Prod.snd

/-- `d[k] = v`. -/
def Dict.set : Dict → String → Json → Dict
  | [], k, v => [(k, v)]
  | f :: d, k, v => if f.1 = k then (k, v) :: d else f :: Dict.set d k v

/-- `{k: v for k, v in d.items() if k != key}`. -/
def Dict.without (d : Dict) (key : String) : Dict := d.filter fun f => f.1 ≠ key

@[simp] lemma Dict.set_set (d : Dict) (k : String) (v w : Json) :
    (d.set k v).set k w = d.set k w := by
  induction d with
  | nil => simp [Dict.set]
  | cons f d ih =>
      by_cases h : f.1 = k
      · simp [Dict.set, h]
      · simp [Dict.set, h, ih]

lemma Dict.get?_set_of_ne (d : Dict) {k k' : String} (h : k' ≠ k) (v : Json) :
    (d.set k v).get? k' = d.get? k' := by
  induction d with
  | nil => simp [Dict.set, Dict.get?, h.symm]
  | cons f d ih =>
      rw [Dict.get?, Dict.get?] at ih ⊢
      by_cases hf : f.1 = k
      · simp [Dict.set, hf, h.symm]
      · by_cases hk : f.1 = k'
        · simp [Dict.set, hk, h]
        · simpa [Dict.set, hf, hk] using ih

lemma Dict.get?_set (d : Dict) (k : String) (v : Json) : (d.set k v).get? k = some v := by
  induction d with
  | nil => simp [Dict.set, Dict.get?]
  | cons f d ih =>
      rw [Dict.get?] at ih ⊢
      by_cases hf : f.1 = k
      · simp [Dict.set, hf]
      · simpa [Dict.set, hf] using ih

lemma Dict.without_set (d : Dict) (k : String) (v : Json) :
    (d.set k v).without k = d.without k := by
  induction d with
  | nil => simp [Dict.set, Dict.without]
  | cons f d ih =>
      rw [Dict.without, Dict.without] at ih ⊢
      by_cases hf : f.1 = k
      · simp [Dict.set, hf]
      · simpa [Dict.set, hf] using ih

lemma Dict.mem_of_get? {d : Dict} {k : String} {v : Json} (h : d.get? k = some v) :
    (k, v) ∈ d := by
  obtain ⟨f, hf, rfl⟩ := Option.map_eq_some_iff.mp h
  have hkey : f.1 = k := by simpa using List.find?_some hf
  exact hkey ▸ List.mem_of_find?_eq_some hf

lemma Dict.mem_set {d : Dict} {k : String} {v : Json} {f : String × Json} (h : f ∈ d.set k v) :
    f.1 = k ∨ f ∈ d := by
  induction d with
  | nil => exact .inl (congrArg Prod.fst (List.mem_singleton.mp h))
  | cons g d ih =>
      rw [Dict.set] at h
      split_ifs at h
      · rcases List.mem_cons.mp h with rfl | h
        · exact .inl rfl
        · exact .inr (List.mem_cons_of_mem _ h)
      · rcases List.mem_cons.mp h with rfl | h
        · exact .inr List.mem_cons_self
        · exact (ih h).imp_right (List.mem_cons_of_mem _)

/-! ### One assignment after the other -/

section

variable {α : Type*} (key : α → String) (val : α → Json)

/-- `d[key(a)] = val(a)` for every `a` of the list. -/
def Dict.setAll (d : Dict) (l : List α) : Dict := l.foldl (fun d a => d.set (key a) (val a)) d

variable {key val} {d : Dict} {l : List α}

lemma Dict.mem_setAll {f : String × Json} (h : f ∈ Dict.setAll key val d l) :
    (∃ a ∈ l, f.1 = key a) ∨ f ∈ d := by
  induction l generalizing d with
  | nil => exact .inr h
  | cons a l ih =>
      rcases ih h with ⟨b, hb, hf⟩ | hf
      · exact .inl ⟨b, List.mem_cons_of_mem _ hb, hf⟩
      · exact (Dict.mem_set hf).imp_left fun hf => ⟨a, List.mem_cons_self, hf⟩

lemma Dict.get?_setAll_of_ne {k : String} (h : ∀ a ∈ l, k ≠ key a) :
    (Dict.setAll key val d l).get? k = d.get? k := by
  induction l generalizing d with
  | nil => rfl
  | cons a l ih =>
      obtain ⟨ha, hl⟩ := List.forall_mem_cons.mp h
      exact (ih hl).trans (Dict.get?_set_of_ne d ha _)

/-- A key that is assigned one value only has that value. -/
lemma Dict.get?_setAll {k : String} {v : Json} (hex : ∃ a ∈ l, key a = k)
    (h : ∀ a ∈ l, key a = k → val a = v) : (Dict.setAll key val d l).get? k = some v := by
  induction l generalizing d with
  | nil => simp at hex
  | cons a l ih =>
      obtain ⟨ha, hl⟩ := List.forall_mem_cons.mp h
      by_cases hlater : ∃ b ∈ l, key b = k
      · exact ih hlater hl
      · push Not at hlater
        obtain ⟨b, hb, hkey⟩ := hex
        rcases List.mem_cons.mp hb with rfl | hb
        · refine (Dict.get?_setAll_of_ne fun c hc => (hlater c hc).symm).trans ?_
          rw [← hkey, ← ha hkey]
          exact Dict.get?_set _ _ _
        · exact absurd hkey (hlater b hb)

end

namespace Json

/-- `bool(value)`. -/
def truthy : Json → Bool
  | null => false
  | bool b => b
  | num n => n ≠ 0
  | float text => text ≠ "0.0" && text ≠ "-0.0"
  | str s => s ≠ ""
  | arr items => !items.isEmpty
  | obj fields => !fields.isEmpty

/-- `str(value)`; `none` for the values whose text has a character that no hexadecimal digest
has: a point, an exponent, or brackets. -/
def pyStr? : Json → Option String
  | null => some "None"
  | bool b => some (if b then "True" else "False")
  | num n => some (toString n)
  | str s => some s
  | _ => none

/-- The value is the string `s`. -/
def isStr (j : Json) (s : String) : Bool :=
  match j with
  | str t => t = s
  | _ => false

@[simp] lemma isStr_iff {j : Json} {s : String} : j.isStr s = true ↔ j = str s := by
  cases j <;> simp [isStr]

/-- `s in value`, `none` where it raises `TypeError`. -/
def contains? (j : Json) (s : String) : Option Bool :=
  match j with
  | obj fields => some (Dict.get? fields s).isSome
  | arr items => some (items.any fun j => j.isStr s)
  | str t => some (PyText.contains s t.toList)
  | _ => none

/-- What goes through JSON unchanged: documents in which no object repeats a key. -/
inductive Distinct : Json → Prop where
  | null : Distinct .null
  | bool (b : Bool) : Distinct (.bool b)
  | num (n : ℤ) : Distinct (.num n)
  | float (s : String) : Distinct (.float s)
  | str (s : String) : Distinct (.str s)
  | arr {items : List Json} : (∀ j ∈ items, Distinct j) → Distinct (.arr items)
  | obj {fields : Dict} : (fields.map Prod.fst).Nodup → (∀ f ∈ fields, Distinct f.2) →
      Distinct (.obj fields)

end Json
