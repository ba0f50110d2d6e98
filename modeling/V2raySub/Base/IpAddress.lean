import Mathlib.Algebra.Group.Nat.Defs
import Mathlib.Data.List.TakeWhile
import Mathlib.Data.Nat.Notation
import Mathlib.Tactic.Common
import V2raySub.Base.PyText

/-!
The internet addresses of the host language (`ipaddress`): their spellings, and the texts of the
networks they are in.

* `V4`, `V6`: addresses as four octets and as eight hextets.
* `ipAddress`: the reader of dotted addresses, and of colon ones with a gap, a dotted end or a zone.
* `networkText`: the network of an address at a prefix length, as it is written.
* `noSpace_of_ipAddress`: what is read has no space in it.
* `expandHextets_compressHextets`, `V4.text_injective`, `V6.text_injective`: an address can be told
  from its text, gap and all.
* `networkText_v4_inj`, `networkText_v6_inj`, `networkText_v4_ne_v6`: two networks are written
  alike exactly if the addresses are of one family and begin with the same groups.
-/

namespace IpAddress

open PyText

/-! ### Addresses -/

/-- `n` numbers below `b`, the most significant first. -/
@[ext] structure Groups (n b : ℕ) where
  groups : List ℕ
  length_eq : groups.length = n
  lt : ∀ g ∈ groups, g < b

/-- The numbers as groups, if there are as many as there have to be. -/
def Groups.ofList? (n b : ℕ) (gs : List ℕ) : Option (Groups n b) :=
  if h : gs.length = n ∧ ∀ g ∈ gs, g < b then some ⟨gs, h.1, h.2⟩ else none

/-- An `IPv4Address`. -/
abbrev V4 := Groups 4 256

/-- An `IPv6Address`, its zone apart. -/
abbrev V6 := Groups 8 65536

/-- `ipv4_mapped`. -/
def V6.ipv4Mapped (a : V6) : Option V4 :=
  if a.groups.take 6 = [0, 0, 0, 0, 0, 0xffff] then
    Groups.ofList? 4 256 ((a.groups.drop 6).flatMap fun g => [g / 256, g % 256])
  else none

/-- An address; a zone stands after a per cent sign. -/
inductive Address where
  | v4 (a : V4)
  | v6 (a : V6) (scopeId : Option (List Char))

/-! ### Reading -/

/-- The value of a hexadecimal digit. -/
def hexValue (c : Char) : Option ℕ :=
  if '0' ≤ c ∧ c ≤ '9' then some (c.toNat - 48)
  else if 'a' ≤ c ∧ c ≤ 'f' then some (c.toNat - 87)
  else if 'A' ≤ c ∧ c ≤ 'F' then some (c.toNat - 55)
  else none

/-- `int(text, base)`, of digits. -/
def number (base : ℕ) (cs : List Char) : Option ℕ :=
  cs.foldlM (fun n c => ((hexValue c).filter (· < base)).map (n * base + ·)) 0

/-- `_parse_octet`. -/
def parseOctet (cs : List Char) : Option ℕ :=
  if cs = [] ∨ 3 < cs.length ∨ (cs ≠ ['0'] ∧ cs.head? = some '0') then none
  else (number 10 cs).filter (· ≤ 255)

/-- `IPv4Address(text)`. -/
def parseV4 (cs : List Char) : Option V4 :=
  ((splitChars '.' cs).mapM parseOctet).bind (Groups.ofList? 4 256)

/-- `_parse_hextet`. -/
def parseHextet (cs : List Char) : Option ℕ :=
  if cs = [] ∨ 4 < cs.length then none else number 16 cs

/-- `'%x' % n`. -/
def hexChars (n : ℕ) : List Char := Nat.toDigits 16 n

/-- The parts with a dotted end as two hextets. -/
def expandTail (parts : List (List Char)) : Option (List (List Char)) :=
  match parts.getLast? with
  | none => some parts
  | some tail =>
    if '.' ∈ tail then
      match (parseV4 tail).map Groups.groups with
      | some [a, b, c, d] =>
        some (parts.dropLast ++ [hexChars (a * 256 + b), hexChars (c * 256 + d)])
      | _ => none
    else some parts

/-- The empty parts between the ends. -/
def skipIndices (parts : List (List Char)) : List ℕ :=
  (List.range parts.length).filter fun i =>
    1 ≤ i ∧ i + 1 < parts.length ∧ parts[i]? = some []

/-- The parts before the gap, the number of hextets it stands for, and the parts after it. -/
def layout (parts : List (List Char)) : Option (List (List Char) × ℕ × List (List Char)) :=
  match skipIndices parts with
  | [] => if parts.length = 8 then some (parts, 0, []) else none
  | [skipIndex] =>
    let leading := parts.head? = some []
    let trailing := parts.getLast? = some []
    let partsHi := if leading then skipIndex - 1 else skipIndex
    let partsLo :=
      if trailing then parts.length - skipIndex - 2 else parts.length - skipIndex - 1
    -- a colon at an end is only permitted as part of the gap, which stands for a hextet at least
    if (leading ∧ partsHi ≠ 0) ∨ (trailing ∧ partsLo ≠ 0) ∨ 8 ≤ partsHi + partsLo then none
    else some (parts.take partsHi, 8 - (partsHi + partsLo), parts.drop (parts.length - partsLo))
  | _ => none

/-- `IPv6Address(text)`, of a text without a zone. -/
def parseV6 (cs : List Char) : Option V6 :=
  let parts := splitChars ':' cs
  if parts.length < 3 then none
  else
    match expandTail parts with
    | none => none
    | some parts =>
      if 9 < parts.length then none
      else
        match layout parts with
        | none => none
        | some (hi, skipped, lo) =>
          match hi.mapM parseHextet, lo.mapM parseHextet with
          | some hi, some lo => Groups.ofList? 8 65536 (hi ++ List.replicate skipped 0 ++ lo)
          | _, _ => none

/-- `_split_scope_id`. -/
def splitScopeId (cs : List Char) : Option (List Char × Option (List Char)) :=
  match cs.dropWhile (· ≠ '%') with
  | [] => some (cs, none)
  | _ :: scopeId =>
    if scopeId = [] ∨ '%' ∈ scopeId then none else some (cs.takeWhile (· ≠ '%'), some scopeId)

/-- `ip_address(text)`, `none` where it raises. -/
def ipAddress (text : String) : Option Address :=
  let cs := text.toList
  if '/' ∈ cs then none
  else match parseV4 cs with
    | some a => some (.v4 a)
    | none => (splitScopeId cs).bind fun x => (parseV6 x.1).map fun a => .v6 a x.2

/-! ### Writing -/

/-- The longest run of zeros: where it begins, how long it is. -/
structure ZeroRun where
  bestStart : ℕ
  bestLen : ℕ
  start : ℕ
  len : ℕ

/-- One round of the loop over the hextets. -/
def ZeroRun.next (r : ZeroRun) (x : String × ℕ) : ZeroRun :=
  if x.1 = "0" then
    let start := if r.len = 0 then x.2 else r.start
    if r.bestLen < r.len + 1 then ⟨start, r.len + 1, start, r.len + 1⟩
    else { r with start := start, len := r.len + 1 }
  else { r with len := 0 }

/-- `_compress_hextets`. -/
def compressHextets (hextets : List String) : List String :=
  let best := hextets.zipIdx.foldl ZeroRun.next ⟨0, 0, 0, 0⟩
  let bestEnd := best.bestStart + best.bestLen
  if 1 < best.bestLen then
    (if best.bestStart = 0 then [""] else []) ++ hextets.take best.bestStart ++ [""]
      ++ hextets.drop bestEnd ++ (if bestEnd = hextets.length then [""] else [])
  else hextets

/-- `'%x' % n`, as a text. -/
def hexText (n : ℕ) : String := String.ofList (hexChars n)

/-- `str(address)` of an `IPv4Address`. -/
def V4.text (a : V4) : String := ".".intercalate (a.groups.map toString)

/-- `str(address)` of an `IPv6Address`, its zone apart. -/
def V6.text (a : V6) : String := ":".intercalate (compressHextets (a.groups.map hexText))

/-- The first `prefixlen` bits, of groups that are `width` bits wide; the others are zero. -/
def Groups.mask {n b : ℕ} (width prefixlen : ℕ) (a : Groups n b) : Groups n b where
  groups := a.groups.mapIdx fun i g =>
    g / 2 ^ (width - (prefixlen - width * i)) * 2 ^ (width - (prefixlen - width * i))
  length_eq := by rw [List.length_mapIdx, a.length_eq]
  lt := by
    intro g hg
    obtain ⟨i, hi, rfl⟩ := List.mem_mapIdx.mp hg
    exact (Nat.div_mul_le_self _ _).trans_lt (a.lt _ (List.getElem_mem hi))

/-- `str(ip_network(f'{text}/{prefixlen}', strict=False))` for the address that is read; the zone
stays where no bit is cleared. -/
def networkText (prefixV4 prefixV6 : ℕ) : Address → String
  | .v4 a => V4.text (a.mask 8 prefixV4) ++ "/" ++ toString prefixV4
  | .v6 a scopeId =>
    let net := a.mask 16 prefixV6
    let zone := (scopeId.filter fun _ => net.groups = a.groups).elim "" fun z =>
      "%" ++ String.ofList z
    V6.text net ++ zone ++ "/" ++ toString prefixV6

/-! ### What is read -/

lemma isSome_hexValue_of_number {b : ℕ} {cs : List Char} (h : (number b cs).isSome) :
    ∀ c ∈ cs, (hexValue c).isSome := by
  have hfold : ∀ n : ℕ, ((cs.foldlM (fun n c =>
      ((hexValue c).filter (· < b)).map (n * b + ·)) n : Option ℕ)).isSome →
        ∀ c ∈ cs, (hexValue c).isSome := by
    clear h
    induction cs with
    | nil => simp
    | cons c cs ih =>
        intro n hn
        rw [List.foldlM_cons] at hn
        cases hc : (hexValue c).filter (· < b) with
        | none => rw [hc] at hn; cases hn
        | some v =>
            rw [hc] at hn
            rw [List.forall_mem_cons]
            exact ⟨by rw [(Option.filter_eq_some_iff.mp hc).1]; rfl, ih _ hn⟩
  exact hfold 0 h

lemma isSpace_of_hexValue {c : Char} (h : (hexValue c).isSome) : isSpace c = false := by
  have hrange : 48 ≤ c.toNat ∧ c.toNat ≤ 102 := by
    rw [hexValue] at h
    split_ifs at h with h1 h2 h3
    · have hlow : '0'.toNat ≤ c.toNat := h1.1
      have hhigh : c.toNat ≤ '9'.toNat := h1.2
      exact ⟨hlow, hhigh.trans (by decide)⟩
    · have hlow : 'a'.toNat ≤ c.toNat := h2.1
      have hhigh : c.toNat ≤ 'f'.toNat := h2.2
      exact ⟨le_trans (by decide) hlow, hhigh⟩
    · have hlow : 'A'.toNat ≤ c.toNat := h3.1
      have hhigh : c.toNat ≤ 'F'.toNat := h3.2
      exact ⟨le_trans (by decide) hlow, hhigh.trans (by decide)⟩
    · cases h
  simp only [isSpace]
  simp
  omega

lemma isSpace_of_parseOctet {cs : List Char} (h : (parseOctet cs).isSome) :
    ∀ c ∈ cs, isSpace c = false := by
  intro c hc
  rw [parseOctet] at h
  split_ifs at h
  · cases h
  · obtain ⟨n, hn⟩ := Option.isSome_iff_exists.mp h
    have hnumber : (number 10 cs).isSome := by rw [(Option.filter_eq_some_iff.mp hn).1]; rfl
    exact isSpace_of_hexValue (isSome_hexValue_of_number hnumber c hc)

lemma isSpace_of_parseHextet {cs : List Char} (h : (parseHextet cs).isSome) :
    ∀ c ∈ cs, isSpace c = false := by
  intro c hc
  rw [parseHextet] at h
  split_ifs at h
  · cases h
  · exact isSpace_of_hexValue (isSome_hexValue_of_number h c hc)

/-- A text without spaces between the separators has none. -/
lemma isSpace_of_parts {sep : Char} (hsep : isSpace sep = false) {cs : List Char}
    (h : ∀ w ∈ splitChars sep cs, ∀ c ∈ w, isSpace c = false) : ∀ c ∈ cs, isSpace c = false := by
  intro c hc
  by_cases heq : c = sep
  · rw [heq, hsep]
  · obtain ⟨w, hw, hcw⟩ := exists_mem_splitChars hc heq
    exact h w hw c hcw

lemma isSpace_of_parseV4 {cs : List Char} (h : (parseV4 cs).isSome) :
    ∀ c ∈ cs, isSpace c = false := by
  obtain ⟨a, ha⟩ := Option.isSome_iff_exists.mp h
  obtain ⟨octets, hoctets, -⟩ := Option.bind_eq_some_iff.mp ha
  have hparts := (isSome_mapM_iff (splitChars '.' cs)).mp (by rw [hoctets]; rfl)
  exact isSpace_of_parts (by decide) fun w hw => isSpace_of_parseOctet (hparts w hw)

/-- A part is still there after a dotted end is spelled out, or it is that end. -/
lemma mem_expandTail {parts parts' : List (List Char)} (h : expandTail parts = some parts')
    {w : List Char} (hw : w ∈ parts) : w ∈ parts' ∨ (parseV4 w).isSome := by
  rw [expandTail] at h
  cases hlast : parts.getLast? with
  | none =>
      simp only [hlast, Option.some.injEq] at h
      exact .inl (h ▸ hw)
  | some tail =>
      simp only [hlast] at h
      split_ifs at h with hdot
      · split at h
        next a b c d hgroups =>
          obtain ⟨v4, hv4, -⟩ := Option.map_eq_some_iff.mp hgroups
          have hdrop := List.dropLast_append_getLast? tail hlast
          rw [← hdrop, List.mem_append, List.mem_singleton] at hw
          rw [Option.some.injEq] at h
          rcases hw with hw | rfl
          · exact .inl (h ▸ List.mem_append_left _ hw)
          · exact .inr (by rw [hv4]; rfl)
        next => cases h
      · rw [Option.some.injEq] at h
        exact .inl (h ▸ hw)

/-- Only empty parts stand in the gap and beside it. -/
lemma mem_layout {parts hi lo : List (List Char)} {skipped : ℕ}
    (h : layout parts = some (hi, skipped, lo)) {w : List Char} (hw : w ∈ parts) (hne : w ≠ []) :
    w ∈ hi ∨ w ∈ lo := by
  rw [layout] at h
  split at h
  next =>
    split_ifs at h
    cases h
    exact .inl hw
  next skipIndex hskip =>
    have hgap : skipIndex ∈ skipIndices parts := by rw [hskip]; exact List.mem_singleton_self _
    obtain ⟨hpos, hlt, hempty⟩ : 1 ≤ skipIndex ∧ skipIndex + 1 < parts.length
        ∧ parts[skipIndex]? = some [] := of_decide_eq_true (List.mem_filter.mp hgap).2
    obtain ⟨j, hj, rfl⟩ := List.mem_iff_getElem.mp hw
    have hne' : parts[j]? ≠ some [] := by
      rw [List.getElem?_eq_getElem hj]
      exact fun he => hne (Option.some.inj he)
    have hhead : j = 0 → parts.head? ≠ some [] := by
      rintro rfl
      rwa [List.head?_eq_getElem?]
    have hlast : j = parts.length - 1 → parts.getLast? ≠ some [] := by
      rintro rfl
      rwa [List.getLast?_eq_getElem?]
    have hmid : j ≠ skipIndex := fun he => hne' (he ▸ hempty)
    simp only [] at h
    generalize hHi : (if parts.head? = some [] then skipIndex - 1 else skipIndex) = partsHi at h
    generalize hLo : (if parts.getLast? = some [] then parts.length - skipIndex - 2
      else parts.length - skipIndex - 1) = partsLo at h
    split_ifs at h with hbad
    cases h
    rw [not_or, not_or, not_and, not_and, not_not, not_not] at hbad
    obtain ⟨hlead, htrail, -⟩ := hbad
    -- a colon at an end makes its side empty, and the part at that end is empty as well
    rcases Nat.lt_or_gt_of_ne hmid with hbefore | hafter
    · have hside : j < partsHi := by
        split_ifs at hHi with hl
        · have hzero := hlead hl
          exact absurd hl (hhead (by omega))
        · omega
      exact .inl (List.mem_take_iff_getElem.mpr ⟨j, by omega, rfl⟩)
    · have hside : parts.length - partsLo ≤ j := by
        split_ifs at hLo with ht
        · have hzero := htrail ht
          exact absurd ht (hlast (by omega))
        · omega
      exact .inr (List.mem_drop_iff_getElem.mpr
        ⟨j - (parts.length - partsLo), by omega, by simp [hside]⟩)
  next => cases h

lemma isSpace_of_parseV6 {cs : List Char} (h : (parseV6 cs).isSome) :
    ∀ c ∈ cs, isSpace c = false := by
  refine isSpace_of_parts (show isSpace ':' = false by decide) fun w hw => ?_
  obtain ⟨a, ha⟩ := Option.isSome_iff_exists.mp h
  simp only [parseV6] at ha
  split_ifs at ha
  split at ha
  · cases ha
  next parts hparts =>
    split_ifs at ha
    split at ha
    · cases ha
    next hi skipped lo hlayout =>
      split at ha
      next hexHi hexLo hhi hlo =>
        rcases mem_expandTail hparts hw with hw | htail
        · by_cases hne : w = []
          · simp [hne]
          · have hmem : w ∈ hi ∨ w ∈ lo := mem_layout hlayout hw hne
            have hparsed : (parseHextet w).isSome := hmem.elim
              ((isSome_mapM_iff hi).mp (by rw [hhi]; rfl) w)
              ((isSome_mapM_iff lo).mp (by rw [hlo]; rfl) w)
            exact isSpace_of_parseHextet hparsed
        · exact isSpace_of_parseV4 htail
      next => cases ha

lemma splitScopeId_of_notMem {cs : List Char} (h : '%' ∉ cs) :
    splitScopeId cs = some (cs, none) := by
  have hdrop : cs.dropWhile (· ≠ '%') = [] :=
    List.dropWhile_eq_nil_iff.mpr fun c hc => decide_eq_true (ne_of_mem_of_not_mem hc h)
  rw [splitScopeId, hdrop]

/-- Without a zone, a text is read by one of the two readers. -/
lemma ipAddress_cases {text : String} {a : Address} (h : ipAddress text = some a)
    (hzone : '%' ∉ text.toList) :
    (∃ x, parseV4 text.toList = some x ∧ a = .v4 x)
      ∨ ∃ x, parseV6 text.toList = some x ∧ a = .v6 x none := by
  simp only [ipAddress, splitScopeId_of_notMem hzone, Option.bind_some] at h
  split_ifs at h
  split at h
  next x hx => exact .inl ⟨x, hx, (Option.some.inj h).symm⟩
  next =>
    obtain ⟨x, hx, rfl⟩ := Option.map_eq_some_iff.mp h
    exact .inr ⟨x, hx, rfl⟩

/-- Such a text has no space in it. -/
theorem noSpace_of_ipAddress {text : String} {a : Address} (h : ipAddress text = some a)
    (hzone : '%' ∉ text.toList) : ∀ c ∈ text.toList, isSpace c = false := by
  rcases ipAddress_cases h hzone with ⟨x, hx, -⟩ | ⟨x, hx, -⟩
  · exact isSpace_of_parseV4 (by rw [hx]; rfl)
  · exact isSpace_of_parseV6 (by rw [hx]; rfl)

lemma strip_of_ipAddress {text : String} {a : Address} (h : ipAddress text = some a)
    (hzone : '%' ∉ text.toList) : strip text = text := by
  rw [strip, stripChars_eq_self (noSpace_of_ipAddress h hzone), String.ofList_toList]

/-! ### Numbers as they are written -/

/-- The digits are none of the separators. -/
lemma digitChar_ne_sep :
    ∀ d < 16, Nat.digitChar d ≠ ':' ∧ Nat.digitChar d ≠ '.' ∧ Nat.digitChar d ≠ '/' := by decide

lemma toList_hexText (n : ℕ) : (hexText n).toList = Nat.toDigits 16 n := String.toList_ofList

lemma hexText_injective : Function.Injective hexText := by
  intro m n h
  have hlist := congrArg String.toList h
  rw [toList_hexText, toList_hexText] at hlist
  exact toDigits_inj (by decide) (Nat.le_refl _) hlist

lemma dot_notMem_toString (n : ℕ) : '.' ∉ (toString n).toList := by
  intro h
  rw [toList_toString] at h
  obtain ⟨d, hd, hc⟩ := digitChar_of_mem_toDigits (by decide) h
  exact (digitChar_ne_sep d (by omega)).2.1 hc.symm

lemma colon_notMem_hexText (n : ℕ) : ':' ∉ (hexText n).toList := by
  intro h
  rw [toList_hexText] at h
  obtain ⟨d, hd, hc⟩ := digitChar_of_mem_toDigits (by decide) h
  exact (digitChar_ne_sep d hd).1 hc.symm

lemma hexText_ne_empty (n : ℕ) : hexText n ≠ "" := by
  intro h
  have hlist := congrArg String.toList h
  rw [toList_hexText] at hlist
  exact Nat.toDigits_ne_nil hlist

/-! ### The gap -/

/-- What the loop knows of the hextets it has seen: both runs are zeros, and the one it counts
ends where it is. -/
structure ZeroRun.Of (seen : List String) (r : ZeroRun) : Prop where
  best : ∀ i, r.bestStart ≤ i → i < r.bestStart + r.bestLen → seen[i]? = some "0"
  current : ∀ i, r.start ≤ i → i < r.start + r.len → seen[i]? = some "0"
  ends : 0 < r.len → r.start + r.len = seen.length

lemma ZeroRun.Of.next {seen : List String} {r : ZeroRun} (h : r.Of seen) (hextet : String) :
    (r.next (hextet, seen.length)).Of (seen ++ [hextet]) := by
  have hold : ∀ {i : ℕ}, seen[i]? = some "0" → (seen ++ [hextet])[i]? = some "0" := by
    intro i hi
    rwa [List.getElem?_append_left (List.getElem?_eq_some_iff.mp hi).1]
  have hlen : (seen ++ [hextet]).length = seen.length + 1 := by simp
  have hends := h.ends
  by_cases hzero : hextet = "0"
  · obtain ⟨start, hstart⟩ : ∃ start, start = if r.len = 0 then seen.length else r.start := ⟨_, rfl⟩
    have hnext : r.next (hextet, seen.length) = if r.bestLen < r.len + 1 then
        ⟨start, r.len + 1, start, r.len + 1⟩ else { r with start := start, len := r.len + 1 } := by
      simp only [ZeroRun.next, hzero, if_true, hstart]
    -- the run that is counted takes the new hextet in
    have hend : start + (r.len + 1) = (seen ++ [hextet]).length := by
      split_ifs at hstart <;> omega
    have hrun : ∀ i, start ≤ i → i < start + (r.len + 1) → (seen ++ [hextet])[i]? = some "0" := by
      intro i hlow hhigh
      by_cases hi : i = seen.length
      · rw [hi, List.getElem?_concat_length, hzero]
      · split_ifs at hstart
        · omega
        · exact hold (h.current i (by omega) (by omega))
    rw [hnext]
    split_ifs
    · exact ⟨hrun, hrun, fun _ => hend⟩
    · exact ⟨fun i hlow hhigh => hold (h.best i hlow hhigh), hrun, fun _ => hend⟩
  · rw [ZeroRun.next, if_neg hzero]
    refine ⟨fun i hlow hhigh => hold (h.best i hlow hhigh), fun i hlow hhigh => ?_, fun hpos => ?_⟩
    · exact absurd hhigh (Nat.not_lt.mpr hlow)
    · exact absurd hpos (Nat.lt_irrefl 0)

lemma ZeroRun.of_foldl (hextets : List String) :
    (hextets.zipIdx.foldl ZeroRun.next ⟨0, 0, 0, 0⟩).Of hextets := by
  induction hextets using List.reverseRecOn with
  | nil =>
      change (ZeroRun.mk 0 0 0 0).Of []
      exact ⟨fun i _ hi => absurd hi (Nat.not_lt_zero i),
        fun i _ hi => absurd hi (Nat.not_lt_zero i), fun hpos => absurd hpos (Nat.lt_irrefl 0)⟩
  | append_singleton hextets hextet ih =>
      rw [List.zipIdx_append, List.foldl_append, Nat.zero_add]
      exact ih.next hextet

/-- The `n` hextets again, from what is written of them around the gap. -/
def expandHextets (n : ℕ) (parts : List String) : List String :=
  if "" ∈ parts then
    let hi := parts.takeWhile (· ≠ "")
    let lo := (parts.reverse.takeWhile (· ≠ "")).reverse
    hi ++ List.replicate (n - hi.length - lo.length) "0" ++ lo
  else parts

lemma takeWhile_gap {α : Type*} [DecidableEq α] {sep : α} {hi rest : List α} (h : sep ∉ hi) :
    (hi ++ sep :: rest).takeWhile (· ≠ sep) = hi := by
  have hkeep : ∀ x ∈ hi, decide (x ≠ sep) = true := by
    intro x hx
    exact decide_eq_true (ne_of_mem_of_not_mem hx h)
  rw [List.takeWhile_append_of_pos hkeep]
  simp

lemma reverse_takeWhile_gap {α : Type*} [DecidableEq α] {sep : α} {front lo : List α}
    (h : sep ∉ lo) : ((front ++ sep :: lo).reverse.takeWhile (· ≠ sep)).reverse = lo := by
  rw [List.reverse_append, List.reverse_cons, List.append_assoc, List.singleton_append,
    takeWhile_gap (by rwa [List.mem_reverse]), List.reverse_reverse]

lemma expandHextets_of_gap {n : ℕ} {parts hi lo rest front : List String} (hhi : "" ∉ hi)
    (hlo : "" ∉ lo) (hrest : parts = hi ++ "" :: rest) (hfront : parts = front ++ "" :: lo) :
    expandHextets n parts = hi ++ List.replicate (n - hi.length - lo.length) "0" ++ lo := by
  have hmem : "" ∈ parts := by simp [hrest]
  have htake : parts.takeWhile (· ≠ "") = hi := by rw [hrest, takeWhile_gap hhi]
  have hdrop : (parts.reverse.takeWhile (· ≠ "")).reverse = lo := by
    rw [hfront, reverse_takeWhile_gap hlo]
  simp only [expandHextets, if_pos hmem, htake, hdrop]

/-- Nothing is lost in the gap. -/
theorem expandHextets_compressHextets {hextets : List String} (hne : "" ∉ hextets) :
    expandHextets hextets.length (compressHextets hextets) = hextets := by
  have hrun := (ZeroRun.of_foldl hextets).best
  rw [compressHextets]
  revert hrun
  generalize hextets.zipIdx.foldl ZeroRun.next ⟨0, 0, 0, 0⟩ = best
  obtain ⟨s, k, -, -⟩ := best
  simp only []
  intro hzeros
  by_cases hgap : 1 < k
  · rw [if_pos hgap]
    have hend : s + k ≤ hextets.length := by
      have hlast := hzeros (s + k - 1) (by omega) (by omega)
      have hlt := (List.getElem?_eq_some_iff.mp hlast).1
      omega
    have hrun : (hextets.drop s).take k = List.replicate k "0" := by
      rw [List.eq_replicate_iff]
      refine ⟨by simp only [List.length_take, List.length_drop]; omega, fun x hx => ?_⟩
      obtain ⟨i, hi, rfl⟩ := List.mem_take_iff_getElem.mp hx
      have hzero := hzeros (s + i) (by omega) (by omega)
      rw [← List.getElem?_drop, List.getElem?_eq_some_iff] at hzero
      exact hzero.2
    have hhi : "" ∉ hextets.take s := fun h => hne (List.mem_of_mem_take h)
    have hlo : "" ∉ hextets.drop (s + k) := fun h => hne (List.mem_of_mem_drop h)
    generalize hparts : (if s = 0 then [""] else []) ++ hextets.take s ++ [""]
      ++ hextets.drop (s + k) ++ (if s + k = hextets.length then [""] else []) = parts
    -- a gap at an end is written with one empty part more, on either side of it
    obtain ⟨rest, hrest⟩ : ∃ rest, parts = hextets.take s ++ "" :: rest := by
      rw [← hparts]
      split_ifs with hs <;> simp [hs]
    obtain ⟨front, hfront⟩ : ∃ front, parts = front ++ "" :: hextets.drop (s + k) := by
      rw [← hparts]
      by_cases he : s + k = hextets.length
      · rw [if_pos he, he, List.drop_length]
        exact ⟨(if s = 0 then [""] else []) ++ hextets.take s ++ [""], by simp⟩
      · rw [if_neg he]
        exact ⟨(if s = 0 then [""] else []) ++ hextets.take s, by simp⟩
    rw [expandHextets_of_gap hhi hlo hrest hfront, List.length_take, List.length_drop]
    have hk : hextets.length - min s hextets.length - (hextets.length - (s + k)) = k := by omega
    rw [hk, ← hrun, List.append_assoc, ← List.drop_drop, List.take_append_drop,
      List.take_append_drop]
  · rw [if_neg hgap, expandHextets, if_neg hne]

lemma mem_compressHextets {hextets : List String} {part : String}
    (h : part ∈ compressHextets hextets) : part = "" ∨ part ∈ hextets := by
  have htake : ∀ {m : ℕ}, part ∈ hextets.take m → part ∈ hextets := List.mem_of_mem_take
  have hdrop : ∀ {m : ℕ}, part ∈ hextets.drop m → part ∈ hextets := List.mem_of_mem_drop
  rw [compressHextets] at h
  grind

/-! ### Networks -/

/-- Addresses are told apart by their texts. -/
lemma V4.text_injective : Function.Injective V4.text := by
  intro a b h
  have hsplit : ∀ x : V4, splitOn '.' (V4.text x) = x.groups.map toString := by
    intro x
    have hne : x.groups.map toString ≠ [] := by
      rw [ne_eq, ← List.length_eq_zero_iff, List.length_map, x.length_eq]
      decide
    refine splitOn_intercalate hne fun text htext => ?_
    obtain ⟨n, -, rfl⟩ := List.mem_map.mp htext
    exact dot_notMem_toString n
  have hmap : a.groups.map toString = b.groups.map toString := by
    rw [← hsplit, ← hsplit, h]
  exact Groups.ext (toString_injective.list_map hmap)

lemma V6.text_injective : Function.Injective V6.text := by
  intro a b h
  have hne : ∀ x : V6, "" ∉ x.groups.map hexText := by
    intro x hx
    obtain ⟨n, -, hn⟩ := List.mem_map.mp hx
    exact hexText_ne_empty n hn
  have hlen : ∀ x : V6, (x.groups.map hexText).length = 8 := fun x => by
    rw [List.length_map, x.length_eq]
  have hsplit : ∀ x : V6, splitOn ':' (V6.text x) = compressHextets (x.groups.map hexText) := by
    intro x
    have hparts : compressHextets (x.groups.map hexText) ≠ [] := by
      intro hnil
      have hback := expandHextets_compressHextets (hne x)
      rw [hnil, hlen] at hback
      simpa [← hback, expandHextets] using hlen x
    refine splitOn_intercalate hparts fun text htext => ?_
    rcases mem_compressHextets htext with rfl | htext
    · exact List.not_mem_nil
    · obtain ⟨n, -, rfl⟩ := List.mem_map.mp htext
      exact colon_notMem_hexText n
  have hmap : a.groups.map hexText = b.groups.map hexText := by
    rw [← expandHextets_compressHextets (hne a), ← expandHextets_compressHextets (hne b),
      hlen, hlen, ← hsplit, ← hsplit, h]
  exact Groups.ext (hexText_injective.list_map hmap)

/-- A prefix of whole groups keeps them and clears the others. -/
lemma groups_mask {n w k : ℕ} (hk : k ≤ n) (a : Groups n (2 ^ w)) :
    (a.mask w (w * k)).groups = a.groups.take k ++ List.replicate (n - k) 0 := by
  have hlen := a.length_eq
  refine List.ext_getElem ?_ fun i hi hi' => ?_
  · simp only [Groups.mask, List.length_mapIdx, List.length_append, List.length_take,
      List.length_replicate]
    omega
  · simp only [Groups.mask, List.getElem_mapIdx]
    have hbits : w - (w * k - w * i) = if i < k then 0 else w := by
      split_ifs with hik
      · have hmul : w * (i + 1) ≤ w * k := Nat.mul_le_mul_left w hik
        rw [Nat.mul_succ] at hmul
        omega
      · have hmul : w * k ≤ w * i := Nat.mul_le_mul_left w (by omega)
        omega
    rw [hbits]
    split_ifs with hik
    · rw [List.getElem_append_left (by simp only [List.length_take]; omega), List.getElem_take,
        Nat.pow_zero, Nat.div_one, Nat.mul_one]
    · rw [List.getElem_append_right (by simp only [List.length_take]; omega),
        List.getElem_replicate, Nat.div_eq_of_lt (a.lt _ (List.getElem_mem _)), Nat.zero_mul]

lemma mask_eq_iff {n w k : ℕ} (hk : k ≤ n) (a b : Groups n (2 ^ w)) :
    a.mask w (w * k) = b.mask w (w * k) ↔ a.groups.take k = b.groups.take k := by
  rw [Groups.ext_iff, groups_mask hk, groups_mask hk, List.append_left_inj]

/-- Networks of `k` octets are written alike exactly if the addresses begin with the same `k`. -/
theorem networkText_v4_inj {k q : ℕ} (hk : k ≤ 4) {a b : V4} :
    networkText (8 * k) q (.v4 a) = networkText (8 * k) q (.v4 b)
      ↔ a.groups.take k = b.groups.take k := by
  rw [networkText, networkText, String.append_left_inj, String.append_left_inj,
    V4.text_injective.eq_iff]
  exact mask_eq_iff (w := 8) hk a b

/-- Networks of `k` hextets are written alike exactly if the addresses begin with the same `k`. -/
theorem networkText_v6_inj {k p : ℕ} (hk : k ≤ 8) {a b : V6} :
    networkText p (16 * k) (.v6 a none) = networkText p (16 * k) (.v6 b none)
      ↔ a.groups.take k = b.groups.take k := by
  simp only [networkText, Option.filter_none, Option.elim_none]
  rw [String.append_left_inj, String.append_left_inj, String.append_left_inj,
    V6.text_injective.eq_iff]
  exact mask_eq_iff (w := 16) hk a b

/-- Networks of the two families are written with different lengths. -/
theorem networkText_v4_ne_v6 {p q : ℕ} (h : p ≠ q) (a : V4) (b : V6)
    (scopeId : Option (List Char)) :
    networkText p q (.v4 a) ≠ networkText p q (.v6 b scopeId) := by
  have hslash : ∀ n : ℕ, '/' ∉ (toString n).toList := by
    intro n hn
    rw [toList_toString] at hn
    obtain ⟨d, hd, hc⟩ := digitChar_of_mem_toDigits (by decide) hn
    exact (digitChar_ne_sep d (by omega)).2.2 hc.symm
  have hafter : ∀ (front : String) (n : ℕ),
      ((front ++ "/" ++ toString n).toList.reverse.takeWhile (· ≠ '/')).reverse
        = (toString n).toList := by
    intro front n
    rw [String.toList_append, String.toList_append, List.append_assoc]
    exact reverse_takeWhile_gap (hslash n)
  intro heq
  rw [networkText, networkText] at heq
  have hlength : (toString p).toList = (toString q).toList := by
    rw [← hafter, heq, hafter]
  exact h (toString_injective (String.toList_inj.mp hlength))

end IpAddress
