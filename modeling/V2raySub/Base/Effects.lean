import Mathlib.Tactic.Common
import Mathlib.Tactic.SplitIfs

/-!
Programs that work on a state and may raise, and rules for what they leave behind.

* `Prog`: from a state to an answer or an exception and the state left; `handle` is
  `try … except`, `always` is `try … finally`, `each` is `for … in`.
* `Spec P m Q E`: run from a state with `P`, the program leaves `Q` where it answers and `E`
  where it raises; one rule a construct.
* `Total P m Q`: run from a state with `P`, the program answers and leaves `Q`; one rule a
  construct.
* `Keeps R m`: the state left is related to the state before, however the program ends.
-/

/-- A program with exceptions `ε` on the state `σ`. -/
def Prog (ε σ α : Type) : Type := σ → Except ε α × σ

namespace Prog

variable {ε σ α β : Type}

instance : Monad (Prog ε σ) where
  pure a := fun s => (.ok a, s)
  bind m f := fun s =>
    match m s with
    | (.ok a, s') => f a s'
    | (.error e, s') => (.error e, s')

/-- The state. -/
def state : Prog ε σ σ := fun s => (.ok s, s)

/-- A change of the state. -/
def change (f : σ → σ) : Prog ε σ Unit := fun s => (.ok (), f s)

/-- An exception. -/
def raise (e : ε) : Prog ε σ α := fun s => (.error e, s)

/-- `try m except e: h e`. -/
def handle (m : Prog ε σ α) (h : ε → Prog ε σ α) : Prog ε σ α := fun s =>
  match m s with
  | (.ok a, s') => (.ok a, s')
  | (.error e, s') => h e s'

/-- `try m finally: f`; what `f` raises replaces what `m` did. -/
def always (m : Prog ε σ α) (f : Prog ε σ Unit) : Prog ε σ α := fun s =>
  match f (m s).2 with
  | (.ok _, s') => ((m s).1, s')
  | (.error e, s') => (.error e, s')

/-- `for x in xs: f x`. -/
def each (xs : List β) (f : β → Prog ε σ Unit) : Prog ε σ Unit :=
  match xs with
  | [] => pure ()
  | x :: xs => do
    f x
    each xs f

/-- What follows an answer runs on it. -/
lemma bind_of_ok {m : Prog ε σ α} {f : α → Prog ε σ β} {s s' : σ} {a : α}
    (h : m s = (.ok a, s')) : (m >>= f) s = f a s' := by
  show (match m s with
    | (.ok a, s') => f a s'
    | (.error e, s') => (.error e, s')) = _
  rw [h]

/-- Nothing runs after an exception. -/
lemma bind_of_error {m : Prog ε σ α} {f : α → Prog ε σ β} {s s' : σ} {e : ε}
    (h : m s = (.error e, s')) : (m >>= f) s = (.error e, s') := by
  show (match m s with
    | (.ok a, s') => f a s'
    | (.error e, s') => (.error e, s')) = _
  rw [h]

/-- An answer is not handled. -/
lemma handle_of_ok {m : Prog ε σ α} {h : ε → Prog ε σ α} {s s' : σ} {a : α}
    (hm : m s = (.ok a, s')) : m.handle h s = (.ok a, s') := by rw [handle, hm]

/-- An exception is. -/
lemma handle_of_error {m : Prog ε σ α} {h : ε → Prog ε σ α} {s s' : σ} {e : ε}
    (hm : m s = (.error e, s')) : m.handle h s = h e s' := by rw [handle, hm]

/-! ### Pre- and postconditions -/

/-- Run from a state with `P`, the program leaves `Q` where it answers, `E` where it raises. -/
def Spec (P : σ → Prop) (m : Prog ε σ α) (Q : α → σ → Prop) (E : ε → σ → Prop) : Prop :=
  ∀ s, P s → (∀ a s', m s = (.ok a, s') → Q a s') ∧ ∀ e s', m s = (.error e, s') → E e s'

namespace Spec

variable {P P' : σ → Prop} {Q : α → σ → Prop} {R : β → σ → Prop} {E F : ε → σ → Prop}
  {m : Prog ε σ α}

/-- An answer leaves what holds before. -/
lemma pure (a : α) (h : ∀ s, P s → Q a s) : Spec P (Pure.pure a) Q E := by
  intro s hs
  refine ⟨fun b s' hb => ?_, fun e s' he => ?_⟩
  · cases hb
    exact h s hs
  · cases he

/-- So does an exception. -/
lemma raise (e : ε) (h : ∀ s, P s → E e s) : Spec P (Prog.raise e) Q E := by
  intro s hs
  refine ⟨fun b s' hb => ?_, fun e' s' he => ?_⟩
  · cases hb
  · cases he
    exact h s hs

/-- **The rule of sequence**: what the first leaves is what the second begins with. -/
lemma bind {f : α → Prog ε σ β} (hm : Spec P m Q E) (hf : ∀ a, Spec (Q a) (f a) R E) :
    Spec P (m >>= f) R E := by
  intro s hs
  obtain ⟨hok, herr⟩ := hm s hs
  rcases hr : m s with ⟨r, s₁⟩
  cases r with
  | error e =>
      rw [bind_of_error hr]
      refine ⟨fun b s' hb => (by cases hb), fun e' s' he => ?_⟩
      cases he
      exact herr e s₁ hr
  | ok a =>
      rw [bind_of_ok hr]
      exact hf a s₁ (hok a s₁ hr)

/-- **The rule of exceptions**: the handler begins with what is left where it was raised. -/
lemma handle {h : ε → Prog ε σ α} (hm : Spec P m Q F) (hh : ∀ e, Spec (F e) (h e) Q E) :
    Spec P (m.handle h) Q E := by
  intro s hs
  obtain ⟨hok, herr⟩ := hm s hs
  rcases hr : m s with ⟨r, s₁⟩
  cases r with
  | error e =>
      rw [handle_of_error hr]
      exact hh e s₁ (herr e s₁ hr)
  | ok a =>
      rw [handle_of_ok hr]
      refine ⟨fun b s' hb => ?_, fun e' s' he => (by cases he)⟩
      cases hb
      exact hok a s₁ hr

/-- A `finally` block is run after both endings. -/
lemma always {f : Prog ε σ Unit} (hm : Spec P m Q F)
    (hf : ∀ a, Spec (Q a) f (fun _ => Q a) E) (hf' : ∀ e, Spec (F e) f (fun _ => E e) E) :
    Spec P (m.always f) Q E := by
  intro s hs
  obtain ⟨hok, herr⟩ := hm s hs
  rcases hr : m s with ⟨r, s₁⟩
  have hrun : m.always f s = match f s₁ with
      | (.ok _, s') => (r, s')
      | (.error e, s') => (.error e, s') := by rw [Prog.always, hr]
  rw [hrun]
  have hend : ∀ {r' s₂}, f s₁ = (r', s₂) → (∀ a, r = .ok a → r' = .ok () → Q a s₂)
      ∧ (∀ e, r = .error e → r' = .ok () → E e s₂) ∧ ∀ e, r' = .error e → E e s₂ := by
    intro r' s₂ hf₁
    refine ⟨fun a ha h' => ?_, fun e he h' => ?_, fun e he => ?_⟩
    · subst ha h'
      exact (hf a s₁ (hok a s₁ hr)).1 () s₂ hf₁
    · subst he h'
      exact (hf' e s₁ (herr e s₁ hr)).1 () s₂ hf₁
    · subst he
      cases r with
      | ok a => exact (hf a s₁ (hok a s₁ hr)).2 e s₂ hf₁
      | error e' => exact (hf' e' s₁ (herr e' s₁ hr)).2 e s₂ hf₁
  rcases hf₁ : f s₁ with ⟨r', s₂⟩
  obtain ⟨h1, h2, h3⟩ := hend hf₁
  cases r' with
  | ok u =>
      refine ⟨fun a s' ha => ?_, fun e s' he => ?_⟩
      · cases ha
        exact h1 a rfl rfl
      · cases he
        exact h2 e rfl rfl
  | error e =>
      refine ⟨fun a s' ha => (by cases ha), fun e' s' he => ?_⟩
      cases he
      exact h3 e rfl

/-- **The rule of consequence**. -/
lemma mono {Q' : α → σ → Prop} {E' : ε → σ → Prop} (hm : Spec P m Q E)
    (hp : ∀ s, P' s → P s) (hq : ∀ a s, Q a s → Q' a s) (he : ∀ e s, E e s → E' e s) :
    Spec P' m Q' E' := by
  intro s hs
  obtain ⟨h1, h2⟩ := hm s (hp s hs)
  exact ⟨fun a s' h => hq a s' (h1 a s' h), fun e s' h => he e s' (h2 e s' h)⟩

/-- A branch. -/
lemma ite {c : Prop} [Decidable c] {m' : Prog ε σ α} (h : Spec P m Q E) (h' : Spec P m' Q E) :
    Spec P (if c then m else m') Q E := by
  split_ifs
  · exact h
  · exact h'

end Spec

/-! ### Programs that answer -/

/-- Run from a state with `P`, the program answers, and leaves `Q`. -/
def Total (P : σ → Prop) (m : Prog ε σ α) (Q : α → σ → Prop) : Prop :=
  ∀ s, P s → ∃ a s', m s = (.ok a, s') ∧ Q a s'

namespace Total

variable {P P' : σ → Prop} {Q Q' : α → σ → Prop} {R : β → σ → Prop} {m : Prog ε σ α}

lemma pure (a : α) (h : ∀ s, P s → Q a s) : Total P (Pure.pure a : Prog ε σ α) Q :=
  fun s hs => ⟨a, s, rfl, h s hs⟩

/-- The state is read as it is. -/
lemma state : Total P (Prog.state : Prog ε σ σ) fun a s => a = s ∧ P s :=
  fun s hs => ⟨s, s, rfl, rfl, hs⟩

/-- A change leaves what it makes of the state. -/
lemma change {f : σ → σ} {R : Unit → σ → Prop} (h : ∀ s, P s → R () (f s)) :
    Total P (Prog.change f : Prog ε σ Unit) R :=
  fun s hs => ⟨(), f s, rfl, h s hs⟩

/-- The rule of sequence; the second answers where the first does. -/
lemma bind {f : α → Prog ε σ β} (hm : Total P m Q) (hf : ∀ a, Total (Q a) (f a) R) :
    Total P (m >>= f) R := by
  intro s hs
  obtain ⟨a, s', hr, hq⟩ := hm s hs
  rw [bind_of_ok hr]
  exact hf a s' hq

/-- A program that answers has no need of its handler. -/
lemma handle (hm : Total P m Q) (h : ε → Prog ε σ α) : Total P (m.handle h) Q := by
  intro s hs
  obtain ⟨a, s', hr, hq⟩ := hm s hs
  exact ⟨a, s', handle_of_ok hr, hq⟩

/-- The last step answers as well, and leaves what it found. -/
lemma always {f : Prog ε σ Unit} (hm : Total P m Q) (hf : ∀ a, Total (Q a) f fun _ => Q a) :
    Total P (m.always f) Q := by
  intro s hs
  obtain ⟨a, s', hr, hq⟩ := hm s hs
  obtain ⟨u, s'', hr', hq'⟩ := hf a s' hq
  exact ⟨a, s'', by rw [Prog.always, hr, hr'], hq'⟩

/-- The rule of consequence. -/
lemma mono (hm : Total P m Q) (hp : ∀ s, P' s → P s) (hq : ∀ a s, Q a s → Q' a s) :
    Total P' m Q' := by
  intro s hs
  obtain ⟨a, s', hr, h⟩ := hm s (hp s hs)
  exact ⟨a, s', hr, hq a s' h⟩

/-- A branch. -/
lemma ite {c : Prop} [Decidable c] {m' : Prog ε σ α} (h : Total P m Q) (h' : Total P m' Q) :
    Total P (if c then m else m') Q := by
  split_ifs
  · exact h
  · exact h'

/-- A fact the postcondition carries along. -/
lemma of_fact {p : Prop} (h : p → Total P m Q) : Total (fun s => p ∧ P s) m Q :=
  fun s hs => h hs.1 s hs.2

/-- An invariant of a loop whose body answers. -/
lemma each {xs : List β} {f : β → Prog ε σ Unit} (hf : ∀ x, Total P (f x) fun _ => P) :
    Total P (Prog.each xs f) fun _ => P := by
  induction xs with
  | nil => exact pure () fun _ h => h
  | cons x xs ih => exact bind (hf x) fun _ => ih

end Total

/-! ### What a program leaves alone -/

/-- The state left is related to the state before, however the program ends. -/
def Keeps (R : σ → σ → Prop) (m : Prog ε σ α) : Prop := ∀ s, R s (m s).2

namespace Keeps

variable {R : σ → σ → Prop} {m : Prog ε σ α}

lemma pure (hr : ∀ s, R s s) (a : α) : Keeps R (Pure.pure a : Prog ε σ α) := hr

lemma raise (hr : ∀ s, R s s) (e : ε) : Keeps R (Prog.raise e : Prog ε σ α) := hr

lemma state (hr : ∀ s, R s s) : Keeps R (Prog.state : Prog ε σ σ) := hr

lemma change {f : σ → σ} (h : ∀ s, R s (f s)) : Keeps R (Prog.change f : Prog ε σ Unit) := h

/-- A weaker relation is kept too. -/
lemma mono {R' : σ → σ → Prop} (hm : Keeps R m) (h : ∀ s t, R s t → R' s t) : Keeps R' m :=
  fun s => h _ _ (hm s)

/-- A branch keeps what both of its sides keep. -/
lemma ite {c : Prop} [Decidable c] {m' : Prog ε σ α} (h : Keeps R m) (h' : Keeps R m') :
    Keeps R (if c then m else m') := by
  split_ifs
  · exact h
  · exact h'

variable (ht : ∀ s t u, R s t → R t u → R s u)
include ht

/-- A transitive relation is kept by a sequence of programs that keep it. -/
lemma bind {f : α → Prog ε σ β} (hm : Keeps R m) (hf : ∀ a, Keeps R (f a)) :
    Keeps R (m >>= f) := by
  intro s
  have h1 := hm s
  rcases hr : m s with ⟨r, s₁⟩
  rw [hr] at h1
  cases r with
  | error e =>
      rw [bind_of_error hr]
      exact h1
  | ok a =>
      rw [bind_of_ok hr]
      exact ht _ _ _ h1 (hf a s₁)

/-- It is kept by a program with a handler that keeps it. -/
lemma handle {h : ε → Prog ε σ α} (hm : Keeps R m) (hh : ∀ e, Keeps R (h e)) :
    Keeps R (m.handle h) := by
  intro s
  have h1 := hm s
  rcases hr : m s with ⟨r, s₁⟩
  rw [hr] at h1
  cases r with
  | error e =>
      rw [handle_of_error hr]
      exact ht _ _ _ h1 (hh e s₁)
  | ok a =>
      rw [handle_of_ok hr]
      exact h1

/-- It is kept by a program with a last step that keeps it. -/
lemma always {f : Prog ε σ Unit} (hm : Keeps R m) (hf : Keeps R f) : Keeps R (m.always f) := by
  intro s
  have h1 := ht _ _ _ (hm s) (hf (m s).2)
  rw [Prog.always]
  rcases hr : f (m s).2 with ⟨r, s₁⟩
  rw [hr] at h1
  cases r <;> exact h1

/-- A relation that is reflexive too is kept by a loop. -/
lemma each (hr : ∀ s, R s s) {xs : List β} {f : β → Prog ε σ Unit} (hf : ∀ x, Keeps R (f x)) :
    Keeps R (Prog.each xs f) := by
  induction xs with
  | nil => exact .pure hr ()
  | cons x xs ih => exact bind ht (hf x) fun _ => ih

end Keeps

/-- A program that keeps a relation keeps what the relation carries over. -/
lemma Keeps.spec {R : σ → σ → Prop} {m : Prog ε σ α} (hm : Keeps R m) {P : σ → Prop}
    (hP : ∀ s t, R s t → P s → P t) : Spec P m (fun _ => P) (fun _ => P) := by
  intro s hs
  have h := hP _ _ (hm s) hs
  refine ⟨fun a s' hr => ?_, fun e s' hr => ?_⟩ <;>
  · rw [hr] at h
    exact h

end Prog
