import Mathlib.Data.List.Infix
import V2raySub.Base.Rows

/-!
A directory of the file system as a list of nodes with their paths: files with their contents,
and the directories that were made as such.  A path is the list of its components.

* `Folder`: no path is listed twice, every component is a name, and nothing lies below a file.
* `write`, `mkdir`, `copy`: `open(p, "wb")`, `os.mkdir` and `shutil.copy2`, `none` where the
  call raises; `file_of_write` says what a write does to every file.
* `extract`: `ZipFile.extractall` into a fresh directory; `extract_of_compatible` says that
  entries which do not stand in each other's way come out as they are.
* `walk`: the files below a directory, in whatever order the file system lists them.
-/

namespace FileTree

/-- The components of a path. -/
abbrev RelPath := List String

/-- A component that names an entry of a directory. -/
def isName (c : String) : Bool := c ≠ "" && c ≠ "." && c ≠ ".."

/-- A path below the top whose components are all names. -/
def Named (p : RelPath) : Prop := p ≠ [] ∧ ∀ c ∈ p, isName c = true

instance (p : RelPath) : Decidable (Named p) := inferInstanceAs (Decidable (_ ∧ _))

/-- Neither path leads through the other. -/
def Apart (p q : RelPath) : Prop := ¬ p <+: q ∧ ¬ q <+: p

lemma Apart.symm {p q : RelPath} (h : Apart p q) : Apart q p := ⟨h.2, h.1⟩

/-- What lies below one of two paths that are apart is apart from the other. -/
lemma Apart.append {p q : RelPath} (h : Apart p q) (r : RelPath) : Apart (p ++ r) q := by
  refine ⟨fun hpre => h.1 ((List.prefix_append p r).trans hpre), fun hpre => ?_⟩
  rcases List.prefix_or_prefix_of_prefix hpre (List.prefix_append p r) with hq | hp
  · exact h.2 hq
  · exact h.1 hp

/-- A tree of files; a node without contents is a directory. -/
structure Folder (β : Type*) where
  nodes : List (RelPath × Option β)
  keyed : Rows.Keyed Prod.fst nodes
  named : ∀ n ∈ nodes, Named n.1
  leaf : ∀ m ∈ nodes, ∀ n ∈ nodes, m.2.isSome → m.1 <+: n.1 → m.1 = n.1

variable {β : Type*}

/-- The empty directory. -/
def Folder.empty : Folder β := ⟨[], by simp [Rows.Keyed], by simp, by simp⟩

/-- The contents of the file at a path. -/
def Folder.file (t : Folder β) (p : RelPath) : Option β :=
  (Rows.get Prod.fst t.nodes p).bind Prod.snd

/-- `os.path.isdir`, for a path below the top. -/
def Folder.isDir (t : Folder β) (p : RelPath) : Bool :=
  t.nodes.any fun n => p.isPrefixOf n.1 && (n.1 != p || n.2.isNone)

/-- The path leads through a file. -/
def Folder.blocked (t : Folder β) (p : RelPath) : Bool :=
  t.nodes.any fun n => n.2.isSome && n.1.isPrefixOf p && n.1 != p

lemma Folder.isDir_iff {t : Folder β} {p : RelPath} :
    t.isDir p = true ↔ ∃ n ∈ t.nodes, p <+: n.1 ∧ (n.1 = p → n.2 = none) := by
  simp only [Folder.isDir, List.any_eq_true, Bool.and_eq_true, List.isPrefixOf_iff_prefix,
    Bool.or_eq_true, bne_iff_ne, ne_eq, Option.isNone_iff_eq_none]
  refine exists_congr fun n => and_congr_right fun _ => and_congr_right fun _ => ?_
  tauto

lemma Folder.blocked_iff {t : Folder β} {p : RelPath} :
    t.blocked p = true ↔ ∃ n ∈ t.nodes, n.2.isSome ∧ n.1 <+: p ∧ n.1 ≠ p := by
  simp [Folder.blocked, and_assoc]

lemma Folder.file_eq_some_iff {t : Folder β} {p : RelPath} {b : β} :
    t.file p = some b ↔ (p, some b) ∈ t.nodes := by
  rw [Folder.file, Option.bind_eq_some_iff]
  constructor
  · rintro ⟨n, hn, hb⟩
    have hnode : n = (p, some b) := Prod.ext (Rows.key_of_get hn) hb
    exact hnode ▸ Rows.get_mem hn
  · intro h
    exact ⟨_, t.keyed.get_of_mem h, rfl⟩

/-- A file is no directory, and no path to it is blocked. -/
lemma Folder.isDir_of_file {t : Folder β} {p : RelPath} {b : β} (h : t.file p = some b) :
    t.isDir p = false := by
  have hmem := Folder.file_eq_some_iff.mp h
  refine Bool.eq_false_iff.mpr fun hdir => ?_
  obtain ⟨n, hn, hpre, hnone⟩ := Folder.isDir_iff.mp hdir
  have hp := t.leaf _ hmem n hn rfl hpre
  have : n = (p, some b) := List.inj_on_of_nodup_map t.keyed hn hmem hp.symm
  rw [this] at hnone
  exact absurd (hnone rfl) (by simp)

lemma Folder.blocked_of_file {t : Folder β} {p : RelPath} {b : β} (h : t.file p = some b) :
    t.blocked p = false := by
  refine Bool.eq_false_iff.mpr fun hblocked => ?_
  obtain ⟨n, hn, hsome, hpre, hne⟩ := Folder.blocked_iff.mp hblocked
  exact hne (t.leaf n hn _ (Folder.file_eq_some_iff.mp h) hsome hpre)

/-! ### Writing -/

/-- `open(p, "wb")` finds a place for the file. -/
def Folder.Writable (t : Folder β) (p : RelPath) : Prop :=
  Named p ∧ t.isDir p = false ∧ t.blocked p = false

instance (t : Folder β) (p : RelPath) : Decidable (t.Writable p) :=
  inferInstanceAs (Decidable (_ ∧ _))

/-- The nodes with one more, in place of what was at its path. -/
def setNode (ns : List (RelPath × Option β)) (p : RelPath) (x : Option β) :
    List (RelPath × Option β) :=
  ns.filter (fun n => n.1 ≠ p) ++ [(p, x)]

lemma mem_setNode {ns : List (RelPath × Option β)} {p : RelPath} {x : Option β}
    {n : RelPath × Option β} : n ∈ setNode ns p x ↔ n = (p, x) ∨ n ∈ ns ∧ n.1 ≠ p := by
  simp only [setNode, List.mem_append, List.mem_filter, decide_eq_true_eq, List.mem_singleton]
  tauto

lemma keyed_setNode {ns : List (RelPath × Option β)} (h : Rows.Keyed Prod.fst ns) (p : RelPath)
    (x : Option β) : Rows.Keyed Prod.fst (setNode ns p x) := by
  have hsub : Rows.Keyed Prod.fst (ns.filter fun n => n.1 ≠ p) :=
    List.Nodup.sublist (List.filter_sublist.map _) h
  refine hsub.insert fun n hn => ?_
  simpa using (List.mem_filter.mp hn).2

/-- A node may be set where no file is in its way and, if it is a file, nothing lies below. -/
def Folder.setAt (t : Folder β) (p : RelPath) (x : Option β) (hp : Named p)
    (hb : t.blocked p = false) (hd : ∀ n ∈ t.nodes, x.isSome → p <+: n.1 → n.1 = p) : Folder β where
  nodes := setNode t.nodes p x
  keyed := keyed_setNode t.keyed p x
  named := by
    intro n hn
    rcases mem_setNode.mp hn with rfl | ⟨hn, -⟩
    · exact hp
    · exact t.named n hn
  leaf := by
    intro m hm n hn hsome hpre
    rcases mem_setNode.mp hm with rfl | ⟨hm, hmp⟩ <;> rcases mem_setNode.mp hn with rfl | ⟨hn, hnp⟩
    · rfl
    · exact (hd n hn hsome hpre).symm
    · by_contra hne
      exact absurd (Folder.blocked_iff.mpr ⟨m, hm, hsome, hpre, hne⟩) (by simp [hb])
    · exact t.leaf m hm n hn hsome hpre

lemma Folder.Writable.below {t : Folder β} {p : RelPath} (h : t.Writable p) :
    ∀ n ∈ t.nodes, p <+: n.1 → n.1 = p := by
  intro n hn hpre
  by_contra hne
  have : t.isDir p = true := Folder.isDir_iff.mpr ⟨n, hn, hpre, fun h => absurd h hne⟩
  exact absurd this (by simp [h.2.1])

/-- `open(p, "wb")` and a write of the whole contents. -/
def Folder.write (t : Folder β) (p : RelPath) (b : β) : Option (Folder β) :=
  if h : t.Writable p then
    some (t.setAt p (some b) h.1 h.2.2 fun n hn _ => h.below n hn)
  else none

/-- `os.mkdir`, with the directories above it. -/
def Folder.mkdir (t : Folder β) (p : RelPath) : Option (Folder β) :=
  if h : Named p ∧ t.blocked p = false ∧ (t.file p).isNone then
    some (t.setAt p none h.1 h.2.1 fun _ _ hx => by simp at hx)
  else none

lemma Folder.write_isSome_iff {t : Folder β} {p : RelPath} {b : β} :
    (t.write p b).isSome ↔ t.Writable p := by
  rw [Folder.write]
  split_ifs with h <;> simp [h]

lemma Folder.writable_of_write {t t' : Folder β} {p : RelPath} {b : β} (h : t.write p b = some t') :
    t.Writable p :=
  Folder.write_isSome_iff.mp (Option.isSome_of_eq_some h)

lemma Folder.mem_of_write {t t' : Folder β} {p : RelPath} {b : β} (h : t.write p b = some t')
    {n : RelPath × Option β} : n ∈ t'.nodes ↔ n = (p, some b) ∨ n ∈ t.nodes ∧ n.1 ≠ p := by
  have hw := Folder.writable_of_write h
  rw [Folder.write, dif_pos hw] at h
  cases h
  exact mem_setNode

/-- A write sets its own file and no other. -/
lemma Folder.file_of_write {t t' : Folder β} {p : RelPath} {b : β} (h : t.write p b = some t')
    (q : RelPath) : t'.file q = if q = p then some b else t.file q := by
  refine Option.ext fun c => ?_
  rw [Folder.file_eq_some_iff, Folder.mem_of_write h]
  by_cases hq : q = p
  · simp [hq, eq_comm]
  · simp [hq, Folder.file_eq_some_iff]

/-- A file can be written over. -/
lemma Folder.writable_of_file {t : Folder β} {p : RelPath} {b : β} (h : t.file p = some b) :
    t.Writable p :=
  ⟨t.named _ (Folder.file_eq_some_iff.mp h), Folder.isDir_of_file h, Folder.blocked_of_file h⟩

lemma Folder.isDir_of_write {t t' : Folder β} {p q : RelPath} {b : β} (h : t.write p b = some t')
    (hpq : Apart p q) : t'.isDir q = t.isDir q := by
  rw [Bool.eq_iff_iff, Folder.isDir_iff, Folder.isDir_iff]
  constructor
  · rintro ⟨n, hn, hpre, hnone⟩
    rcases (Folder.mem_of_write h).mp hn with rfl | ⟨hn, -⟩
    · exact absurd hpre hpq.2
    · exact ⟨n, hn, hpre, hnone⟩
  · rintro ⟨n, hn, hpre, hnone⟩
    exact ⟨n, (Folder.mem_of_write h).mpr (.inr ⟨hn, fun hp => hpq.2 (hp ▸ hpre)⟩), hpre, hnone⟩

lemma Folder.blocked_of_write {t t' : Folder β} {p q : RelPath} {b : β} (h : t.write p b = some t')
    (hpq : Apart p q) : t'.blocked q = t.blocked q := by
  rw [Bool.eq_iff_iff, Folder.blocked_iff, Folder.blocked_iff]
  constructor
  · rintro ⟨n, hn, hsome, hpre, hne⟩
    rcases (Folder.mem_of_write h).mp hn with rfl | ⟨hn, -⟩
    · exact absurd hpre hpq.1
    · exact ⟨n, hn, hsome, hpre, hne⟩
  · rintro ⟨n, hn, hsome, hpre, hne⟩
    exact ⟨n, (Folder.mem_of_write h).mpr (.inr ⟨hn, fun hp => hpq.1 (hp ▸ hpre)⟩), hsome, hpre,
      hne⟩

/-! ### Copying -/

/-- The last component. -/
def basename (p : RelPath) : String := p.getLast?.getD ""

/-- Where `shutil.copy2` puts a file: into its destination, if that is a directory. -/
def Folder.target (t : Folder β) (p : RelPath) : RelPath :=
  if t.isDir p then p ++ [basename p] else p

/-- `shutil.copy2`, with the directories above the destination made first. -/
def Folder.copy (t : Folder β) (p : RelPath) (b : β) : Option (Folder β) := t.write (t.target p) b

/-- A copy to the path has a place to go. -/
def Folder.Clear (t : Folder β) (p : RelPath) : Prop := t.Writable (t.target p)

instance (t : Folder β) (p : RelPath) : Decidable (t.Clear p) :=
  inferInstanceAs (Decidable (t.Writable _))

lemma Folder.target_eq_append (t : Folder β) (p : RelPath) : ∃ r, t.target p = p ++ r := by
  rw [Folder.target]
  split_ifs
  · exact ⟨_, rfl⟩
  · exact ⟨[], by simp⟩

lemma Folder.target_of_file {t : Folder β} {p : RelPath} {b : β} (h : t.file p = some b) :
    t.target p = p := by
  simp [Folder.target, Folder.isDir_of_file h]

lemma Folder.target_of_write {t t' : Folder β} {p q : RelPath} {b : β} (h : t.write p b = some t')
    (hpq : Apart p q) : t'.target q = t.target q := by
  rw [Folder.target, Folder.target, Folder.isDir_of_write h hpq]

/-- A copy leaves the places of the paths apart from its own as they were. -/
lemma Folder.target_of_copy {t t' : Folder β} {p q : RelPath} {b : β} (h : t.copy p b = some t')
    (hpq : Apart p q) : t'.target q = t.target q := by
  obtain ⟨r, hr⟩ := t.target_eq_append p
  rw [Folder.copy, hr] at h
  exact Folder.target_of_write h (hpq.append r)

lemma Folder.clear_of_copy {t t' : Folder β} {p q : RelPath} {b : β} (h : t.copy p b = some t')
    (hpq : Apart p q) : t'.Clear q ↔ t.Clear q := by
  have ht := Folder.target_of_copy h hpq
  obtain ⟨r, hr⟩ := t.target_eq_append p
  obtain ⟨s, hs⟩ := t.target_eq_append q
  rw [Folder.copy, hr] at h
  have hap : Apart (p ++ r) (q ++ s) := ((hpq.append r).symm.append s).symm
  rw [Folder.Clear, Folder.Clear, ht, hs, Folder.Writable, Folder.Writable,
    Folder.isDir_of_write h hap,
    Folder.blocked_of_write h hap]

/-- Copies one file after the other, up to the first that has no place. -/
def Folder.copyAll (t : Folder β) : List (RelPath × β) → Folder β
  | [] => t
  | f :: l =>
    match t.copy f.1 f.2 with
    | none => t
    | some t' => t'.copyAll l

/-- Files that were there can all be copied back, and then hold what was copied. -/
lemma Folder.copyAll_of_files {l : List (RelPath × β)} {t : Folder β}
    (h : ∀ f ∈ l, (t.file f.1).isSome) (hfun : ∀ f ∈ l, ∀ g ∈ l, f.1 = g.1 → f = g) :
    (∀ f ∈ l, (t.copyAll l).file f.1 = some f.2) ∧
      ∀ q, (∀ f ∈ l, f.1 ≠ q) → (t.copyAll l).file q = t.file q := by
  induction l generalizing t with
  | nil => exact ⟨by simp, fun _ _ => rfl⟩
  | cons f l ih =>
      obtain ⟨b, hb⟩ := Option.isSome_iff_exists.mp (h f List.mem_cons_self)
      obtain ⟨t₁, h₁⟩ := Option.isSome_iff_exists.mp
        (Folder.write_isSome_iff.mpr (Folder.writable_of_file hb) : (t.write f.1 f.2).isSome)
      have hcopy : t.copy f.1 f.2 = some t₁ := by rw [Folder.copy, Folder.target_of_file hb, h₁]
      have hfile := Folder.file_of_write h₁
      have hnext : t.copyAll (f :: l) = t₁.copyAll l := by rw [Folder.copyAll, hcopy]
      obtain ⟨hin, hout⟩ := ih (t := t₁)
        (fun g hg => by
          rw [hfile]
          split_ifs
          · rfl
          · exact h g (List.mem_cons_of_mem _ hg))
        (fun g hg g' hg' => hfun g (List.mem_cons_of_mem _ hg) g' (List.mem_cons_of_mem _ hg'))
      rw [hnext]
      constructor
      · intro g hg
        rcases List.mem_cons.mp hg with rfl | hg
        · by_cases hmem : ∃ g' ∈ l, g'.1 = g.1
          · obtain ⟨g', hg', hp⟩ := hmem
            have : g' = g := hfun g' (List.mem_cons_of_mem _ hg') g List.mem_cons_self hp
            exact this ▸ hin g' hg'
          · rw [hout g.1 fun g' hg' hp => hmem ⟨g', hg', hp⟩, hfile, if_pos rfl]
        · exact hin g hg
      · intro q hq
        rw [hout q fun g hg => hq g (List.mem_cons_of_mem _ hg), hfile,
          if_neg fun he => hq f List.mem_cons_self he.symm]

/-! ### Copies that stop -/

/-- What copying the files one after the other leaves when it stops at the file number `n`, or
before it at a file that has no place: where each copied file went, and what the file it stopped
at then holds, if it was opened at all. -/
def Folder.landings (t : Folder β) (torn : Option β) : ℕ → List (RelPath × β) → List (RelPath × β)
  | _, [] => []
  | 0, f :: _ =>
    match torn with
    | some c => if t.Clear f.1 then [(t.target f.1, c)] else []
    | none => []
  | n + 1, f :: l =>
    if t.Clear f.1 then (t.target f.1, f.2) :: t.landings torn n l else []

/-- A copy leaves the places of the files apart from it as they were. -/
lemma Folder.landings_of_copy {t t' : Folder β} {p : RelPath} {b : β} (h : t.copy p b = some t')
    {l : List (RelPath × β)} (hl : ∀ g ∈ l, Apart p g.1) (torn : Option β) (n : ℕ) :
    t'.landings torn n l = t.landings torn n l := by
  induction l generalizing n with
  | nil => simp [Folder.landings]
  | cons f l ih =>
      have hclear := Folder.clear_of_copy h (hl f List.mem_cons_self)
      have htarget := Folder.target_of_copy h (hl f List.mem_cons_self)
      cases n with
      | zero => simp only [Folder.landings, hclear, htarget]
      | succ n =>
          simp only [Folder.landings, hclear, htarget,
            ih (fun g hg => hl g (List.mem_cons_of_mem _ hg)) n]

lemma Folder.mem_landings {t : Folder β} {torn : Option β} {n : ℕ} {l : List (RelPath × β)}
    {x : RelPath × β} (hx : x ∈ t.landings torn n l) : ∃ f ∈ l, x.1 = t.target f.1 := by
  induction l generalizing n with
  | nil => simp [Folder.landings] at hx
  | cons f l ih =>
      cases n with
      | zero =>
          simp only [Folder.landings] at hx
          split at hx
          · split_ifs at hx
            · exact ⟨f, List.mem_cons_self, by rw [List.mem_singleton.mp hx]⟩
            · simp at hx
          · simp at hx
      | succ n =>
          simp only [Folder.landings] at hx
          split_ifs at hx
          · rcases List.mem_cons.mp hx with rfl | hx
            · exact ⟨f, List.mem_cons_self, rfl⟩
            · obtain ⟨g, hg, hxg⟩ := ih hx
              exact ⟨g, List.mem_cons_of_mem _ hg, hxg⟩
          · simp at hx

/-- The files that are wholly copied come before the first that has no place. -/
lemma Folder.mem_landings_none {t : Folder β} {n : ℕ} {l : List (RelPath × β)} {x : RelPath × β}
    (hx : x ∈ t.landings none n l) :
    ∃ f ∈ l.takeWhile (fun f => t.Clear f.1), x = (t.target f.1, f.2) := by
  induction l generalizing n with
  | nil => simp [Folder.landings] at hx
  | cons f l ih =>
      cases n with
      | zero => simp [Folder.landings] at hx
      | succ n =>
          rw [Folder.landings] at hx
          split_ifs at hx with hc
          · rw [List.takeWhile_cons_of_pos (by simpa using hc)]
            rcases List.mem_cons.mp hx with rfl | hx
            · exact ⟨f, List.mem_cons_self, rfl⟩
            · obtain ⟨g, hg, hxg⟩ := ih hx
              exact ⟨g, List.mem_cons_of_mem _ hg, hxg⟩
          · simp at hx

/-- Copies that nothing stops get to the first file that has no place. -/
lemma Folder.landings_of_length_le {t : Folder β} {torn : Option β} {n : ℕ} {l : List (RelPath × β)}
    (hn : l.length ≤ n) :
    t.landings torn n l
      = (l.takeWhile fun f => t.Clear f.1).map fun f => (t.target f.1, f.2) := by
  induction l generalizing n with
  | nil => simp [Folder.landings]
  | cons f l ih =>
      obtain ⟨n, rfl⟩ := Nat.exists_eq_succ_of_ne_zero
        (Nat.ne_of_gt (Nat.lt_of_lt_of_le (Nat.succ_pos l.length) hn))
      rw [Folder.landings]
      by_cases hc : t.Clear f.1
      · rw [if_pos hc, List.takeWhile_cons_of_pos (by simpa using hc), List.map_cons,
          ih (Nat.le_of_succ_le_succ hn)]
      · rw [if_neg hc, List.takeWhile_cons_of_neg (by simpa using hc), List.map_nil]

/-! ### Archives -/

/-- An entry of an archive; the name is given as its parts between the slashes. -/
structure Entry (β : Type*) where
  name : List String
  data : β

/-- The name ends in a slash. -/
def Entry.isDir (e : Entry β) : Bool := 2 ≤ e.name.length && e.name.getLast? = some ""

/-- Where the entry is extracted to: the parts of its name that are names. -/
def Entry.path (e : Entry β) : RelPath := e.name.filter isName

/-- `ZipFile._extract_member`. -/
def Folder.extractEntry (t : Folder β) (e : Entry β) : Option (Folder β) :=
  if e.isDir then (if e.path = [] then some t else t.mkdir e.path) else t.write e.path e.data

/-- `ZipFile.extractall` into an empty directory. -/
def extract (es : List (Entry β)) : Option (Folder β) :=
  es.foldlM Folder.extractEntry Folder.empty

lemma isName_of_named {p : RelPath} (h : Named p) : p.filter isName = p :=
  List.filter_eq_self.mpr h.2

lemma not_isDir_of_named {e : Entry β} (h : Named e.name) : e.isDir = false := by
  refine Bool.eq_false_iff.mpr fun hd => ?_
  simp only [Entry.isDir, Bool.and_eq_true, decide_eq_true_eq] at hd
  have := h.2 "" (List.mem_of_getLast? hd.2)
  simp [isName] at this

/-- Entries whose names are plain and do not lead through one another come out of the archive as
they are. -/
lemma extract_of_compatible {es : List (Entry β)} (hnamed : ∀ e ∈ es, Named e.name)
    (hcomp : ∀ e ∈ es, ∀ f ∈ es, e.name <+: f.name → e = f) :
    ∃ t, extract es = some t ∧ ∀ p b, t.file p = some b ↔ (⟨p, b⟩ : Entry β) ∈ es := by
  suffices h : ∀ done todo : List (Entry β), done ++ todo = es → ∀ t : Folder β,
      (∀ n, n ∈ t.nodes ↔ ∃ e ∈ done, n = (e.name, some e.data)) →
      ∃ t', todo.foldlM Folder.extractEntry t = some t' ∧
        ∀ n, n ∈ t'.nodes ↔ ∃ e ∈ es, n = (e.name, some e.data) by
    obtain ⟨t, ht, hmem⟩ := h [] es rfl Folder.empty (by simp [Folder.empty])
    refine ⟨t, ht, fun p b => ?_⟩
    rw [Folder.file_eq_some_iff, hmem]
    constructor
    · rintro ⟨e, he, heq⟩
      cases heq
      exact he
    · intro he
      exact ⟨_, he, rfl⟩
  intro done todo
  induction todo generalizing done with
  | nil =>
      intro hes t ht
      rw [List.append_nil] at hes
      exact ⟨t, rfl, hes ▸ ht⟩
  | cons e todo ih =>
      intro hes t ht
      have hin : ∀ f ∈ done, f ∈ es := fun f hf => hes ▸ List.mem_append_left _ hf
      have he : e ∈ es := hes ▸ List.mem_append_right _ List.mem_cons_self
      have hw : t.Writable e.name := by
        refine ⟨hnamed e he, Bool.eq_false_iff.mpr fun hd => ?_,
          Bool.eq_false_iff.mpr fun hb => ?_⟩
        · obtain ⟨n, hn, hpre, hnone⟩ := Folder.isDir_iff.mp hd
          obtain ⟨f, hf, rfl⟩ := (ht n).mp hn
          have := hcomp e he f (hin f hf) hpre
          exact absurd (hnone (this ▸ rfl)) (by simp)
        · obtain ⟨n, hn, -, hpre, hne⟩ := Folder.blocked_iff.mp hb
          obtain ⟨f, hf, rfl⟩ := (ht n).mp hn
          exact hne (hcomp f (hin f hf) e he hpre ▸ rfl)
      obtain ⟨t₁, h₁⟩ := Option.isSome_iff_exists.mp
        (Folder.write_isSome_iff.mpr hw : (t.write e.name e.data).isSome)
      have hstep : t.extractEntry e = some t₁ := by
        rw [Folder.extractEntry, not_isDir_of_named (hnamed e he), if_neg (by simp), Entry.path,
          isName_of_named (hnamed e he), h₁]
      obtain ⟨t', ht', hmem⟩ := ih (done ++ [e]) (by simpa using hes) t₁ fun n => by
        rw [Folder.mem_of_write h₁]
        constructor
        · rintro (rfl | ⟨hn, -⟩)
          · exact ⟨e, by simp, rfl⟩
          · obtain ⟨f, hf, hn⟩ := (ht n).mp hn
            exact ⟨f, by simp [hf], hn⟩
        · rintro ⟨f, hf, rfl⟩
          by_cases hp : f.name = e.name
          · have hfe : f ∈ es := by
              rcases List.mem_append.mp hf with hf | hf
              · exact hin f hf
              · exact List.mem_singleton.mp hf ▸ he
            have := hcomp f hfe e he (hp ▸ List.prefix_rfl)
            exact .inl (this ▸ rfl)
          · rcases List.mem_append.mp hf with hf | hf
            · exact .inr ⟨(ht _).mpr ⟨f, hf, rfl⟩, hp⟩
            · exact absurd (List.mem_singleton.mp hf ▸ rfl) hp
      exact ⟨t', by rw [List.foldlM_cons, hstep]; exact ht', hmem⟩

/-! ### Walking -/

/-- An order in which the file system may list the files of a directory. -/
structure Listing (β : Type*) where
  arrange : List (RelPath × β) → List (RelPath × β)
  perm : ∀ l, (arrange l).Perm l

/-- The files below a directory, by their paths relative to it. -/
def Folder.below (t : Folder β) (d : RelPath) : List (RelPath × β) :=
  t.nodes.filterMap fun n =>
    if d.isPrefixOf n.1 && n.1 != d then n.2.map (n.1.drop d.length, ·) else none

/-- `os.walk(d)`. -/
def Folder.walk (o : Listing β) (t : Folder β) (d : RelPath) : List (RelPath × β) :=
  o.arrange (t.below d)

lemma Folder.mem_below {t : Folder β} {d p : RelPath} {b : β} :
    (p, b) ∈ t.below d ↔ p ≠ [] ∧ t.file (d ++ p) = some b := by
  simp only [Folder.below, List.mem_filterMap, Folder.file_eq_some_iff]
  constructor
  · rintro ⟨⟨q, x⟩, hn, hsome⟩
    split_ifs at hsome with hd
    obtain ⟨c, rfl, hpc⟩ := Option.map_eq_some_iff.mp hsome
    cases hpc
    simp only [Bool.and_eq_true, List.isPrefixOf_iff_prefix, bne_iff_ne, ne_eq] at hd
    obtain ⟨r, rfl⟩ := hd.1
    rw [List.drop_left]
    exact ⟨fun hr => hd.2 (by simp [hr]), hn⟩
  · rintro ⟨hp, hn⟩
    refine ⟨_, hn, ?_⟩
    rw [if_pos (by simp [hp])]
    simp

lemma Folder.mem_walk {o : Listing β} {t : Folder β} {d p : RelPath} {b : β} :
    (p, b) ∈ t.walk o d ↔ p ≠ [] ∧ t.file (d ++ p) = some b := by
  rw [Folder.walk, (o.perm _).mem_iff, Folder.mem_below]

/-- The files of a walk do not lead through one another. -/
lemma Folder.walk_leaf {o : Listing β} {t : Folder β} {d : RelPath} {f g : RelPath × β}
    (hf : f ∈ t.walk o d) (hg : g ∈ t.walk o d) (h : f.1 <+: g.1) : f = g := by
  obtain ⟨p, b⟩ := f
  obtain ⟨q, c⟩ := g
  have hp := (Folder.mem_walk.mp hf).2
  have hq := (Folder.mem_walk.mp hg).2
  have hpq := t.leaf _ (Folder.file_eq_some_iff.mp hp) _ (Folder.file_eq_some_iff.mp hq) rfl
    ((List.prefix_append_right_inj d).mpr h)
  rw [List.append_cancel_left hpq] at hp ⊢
  rw [hp] at hq
  cases hq
  rfl

lemma Folder.nodup_walk (o : Listing β) (t : Folder β) (d : RelPath) : (t.walk o d).Nodup := by
  rw [Folder.walk, (o.perm _).nodup_iff, Folder.below]
  refine List.Nodup.filterMap ?_ (List.Nodup.of_map _ t.keyed)
  intro m n f hm hn
  simp only [Option.mem_def] at hm hn
  split_ifs at hm hn with hdm hdn
  simp only [Bool.and_eq_true, List.isPrefixOf_iff_prefix, bne_iff_ne, ne_eq] at hdm hdn
  obtain ⟨⟨r, hr⟩, -⟩ := hdm
  obtain ⟨⟨s, hs⟩, -⟩ := hdn
  obtain ⟨b, hb, rfl⟩ := Option.map_eq_some_iff.mp hm
  obtain ⟨c, hc, heq⟩ := Option.map_eq_some_iff.mp hn
  rw [← hr, ← hs, List.drop_left, List.drop_left] at heq
  obtain ⟨rfl, rfl⟩ := Prod.mk.inj heq
  exact Prod.ext (hr.symm.trans hs) (hb.trans hc.symm)

/-- Different files of a walk are apart. -/
lemma Folder.walk_apart {o : Listing β} {t : Folder β} {d : RelPath} :
    (t.walk o d).Pairwise fun f g => Apart f.1 g.1 :=
  (t.nodup_walk o d).imp_of_mem fun hf hg hne =>
    ⟨fun h => hne (Folder.walk_leaf hf hg h), fun h => hne (Folder.walk_leaf hg hf h).symm⟩

end FileTree
