import Mathlib.Data.List.DropRight
import V2raySub.Base.Fields
import V2raySub.Base.UrlParts
import V2raySub.V2RayDar.Document

/-!
What links and Clash proxies are read with (`convert.rs`, the shared helpers and the YAML helpers).
A YAML value is a `Json` here: the program looks up texts only as keys.

* `parseUnsigned`: `str::parse::<u16>` and `str::parse::<u64>`; `parseUnsigned_toString`.
* `jsonString`, `jsonU64`, `yamlString`, `yamlU16`, …: the fields of a document, under the first of
  their names that has a value of the kind.
* `JsonTextLib`: `serde_json`, with what is relied on: a document of texts is read back as it was
  written, up to the order of its fields.
-/

namespace V2RayDar

/-! ### Texts -/

/-- `str::to_ascii_lowercase`. -/
def lowercase (s : String) : String := String.ofList (s.toList.map toAsciiLowercase)

def eqIgnoreAsciiCase (a b : String) : Bool := lowercase a = lowercase b

/-- `str::trim`, on a text. -/
def trimmed (s : String) : String := String.ofList (trim s.toList)

def startsWith (s start : String) : Bool := start.toList.isPrefixOf s.toList

/-- `str::strip_prefix`. -/
def stripPrefix? (s start : String) : Option String :=
  if startsWith s start = true then some (String.ofList (s.toList.drop start.toList.length))
  else none

/-- `Option::ok_or_else`. -/
def okOr {α : Type} (value : Option α) (err : String) : Except String α :=
  value.elim (.error err) .ok

/-- `str::parse` for the unsigned numbers below `limit`. -/
def parseUnsigned (limit : ℕ) (s : String) : Option ℕ :=
  let digits := if s.toList.head? = some '+' then s.toList.tail else s.toList
  if digits = [] ∨ ¬digits.all Char.isDigit then none
  else (some (Nat.ofDigitChars 10 digits 0)).filter fun n => n < limit

def truthy (value : String) : Bool := ["1", "true", "yes", "y"].contains (lowercase value)

/-! ### JSON -/

/-- The field of an object. -/
def getField : Json → String → Option Json
  | .obj d, key => Dict.get? d key
  | _, _ => none

def asStr : Json → Option String
  | .str s => some s
  | _ => none

/-- `as_u64`. -/
def asU64 : Json → Option ℕ
  | .num n => if 0 ≤ n ∧ n < 2 ^ 64 then some n.toNat else none
  | _ => none

def asSequence : Json → Option (List Json)
  | .arr items => some items
  | _ => none

/-- The first of the fields that is a text and not empty. -/
def firstText (value : Json) (keys : List String) : Option String :=
  keys.findSome? fun key => ((getField value key).bind asStr).filter fun s => s ≠ ""

/-- `json_string`. -/
def jsonString (value : Json) (keys : List String) : Option String := firstText value keys

/-- `json_u64`: a number, or a text that is one. -/
def jsonU64 (value : Json) (keys : List String) : Option ℕ :=
  keys.findSome? fun key => (getField value key).bind fun v =>
    (asU64 v).or ((asStr v).bind (parseUnsigned (2 ^ 64)))

/-- `json_u16`. -/
def jsonU16 (value : Json) (keys : List String) : Option ℕ :=
  (jsonU64 value keys).filter fun n => n < 2 ^ 16

/-- `serde_json::from_str` and `serde_json::to_string`. -/
structure JsonTextLib where
  fromStr : String → Except String Json
  toText : Json → String

/-- A document of texts is read back. -/
structure JsonTextLib.Documented (lib : JsonTextLib) : Prop where
  nonempty : ∀ d, lib.toText (.obj d) ≠ ""
  reads : ∀ d : Dict, d.OfTexts → ∃ d' : Dict, lib.fromStr (lib.toText (.obj d)) = .ok (.obj d')
    ∧ ∀ key, d'.get? key = d.get? key

/-! ### YAML -/

/-- `yaml_string`. -/
def yamlString (value : Json) (keys : List String) : Option String := firstText value keys

/-- The text at the end of a path of keys. -/
def yamlNestedString (value : Json) (path : String) : Option String :=
  ((PyText.splitOn '.' path).foldl (fun current segment => current.bind (getField · segment))
    (some value)).bind asStr

/-- `yaml_u16`; a number that is too large ends the search, and a text that is none does not. -/
def yamlU16 (value : Json) : List String → Option ℕ
  | [] => none
  | key :: keys =>
    match getField value key with
    | some (.num n) => (asU64 (.num n)).elim (yamlU16 value keys) fun v =>
      if v < 2 ^ 16 then some v else none
    | some (.str s) => (parseUnsigned (2 ^ 16) s).or (yamlU16 value keys)
    | _ => yamlU16 value keys

/-- `yaml_u64`. -/
def yamlU64 (value : Json) : List String → Option ℕ
  | [] => none
  | key :: keys =>
    match getField value key with
    | some (.num n) => asU64 (.num n)
    | some (.float text) => asU64 (.float text)
    | some (.str s) => (parseUnsigned (2 ^ 64) s).or (yamlU64 value keys)
    | _ => yamlU64 value keys

/-- `yaml_bool`. -/
def yamlBool (value : Json) : List String → Bool
  | [] => false
  | key :: keys =>
    match getField value key with
    | some (.bool b) => b
    | some (.str s) => truthy s
    | some (.num n) => (asU64 (.num n)).getD 0 ≠ 0
    | some (.float text) => (asU64 (.float text)).getD 0 ≠ 0
    | _ => yamlBool value keys

/-- `yaml_bool_or_string`; a text that is neither yes nor no ends the search. -/
def yamlBoolOrString (value : Json) : List String → Option Bool
  | [] => none
  | key :: keys =>
    match getField value key with
    | some (.bool b) => some b
    | some (.str s) =>
      if ["true", "1", "yes"].contains (lowercase s) then some true
      else if ["false", "0", "no", "none"].contains (lowercase s) then some false
      else none
    | _ => yamlBoolOrString value keys

/-- `yaml_alpn`: a text, or a list of texts. -/
def yamlAlpn (value : Json) : Option String :=
  match getField value "alpn" with
  | some (.str s) => some s
  | some (.arr items) =>
    let parts := items.filterMap asStr
    if parts.isEmpty = true then none else some (",".intercalate parts)
  | _ => none

/-- `yaml_ws_host`. -/
def yamlWsHost (value : Json) : Option String := do
  let ws ← getField value "ws-opts"
  let headers ← getField ws "headers"
  let host ← getField headers "Host"
  asStr host

/-- `yaml_h2_host`: a text, or the first of a list. -/
def yamlH2Host (value : Json) : Option String := do
  let h2 ← getField value "h2-opts"
  let host ← getField h2 "host"
  match host with
  | .str s => some s
  | .arr items => items.head?.bind asStr
  | _ => none

/-! ### What is read -/

/-- There is nothing left to trim. -/
lemma trim_trim (cs : List Char) : trim (trim cs) = trim cs := by
  have hprefix : trim cs <+: cs.dropWhile isWhitespace := List.rdropWhile_prefix _ _
  have hfront : (trim cs).dropWhile isWhitespace = trim cs := by
    cases hcs : trim cs with
    | nil => rfl
    | cons c l =>
        obtain ⟨rest, hrest⟩ := hcs ▸ hprefix
        have hhead := List.head?_dropWhile_not isWhitespace cs
        rw [← hrest, List.cons_append, List.head?_cons] at hhead
        exact List.dropWhile_cons_of_neg (by simpa using hhead)
  calc trim (trim cs) = ((trim cs).dropWhile isWhitespace).rdropWhile isWhitespace := rfl
    _ = (trim cs).rdropWhile isWhitespace := by rw [hfront]
    _ = trim cs := List.rdropWhile_idempotent _ _

/-- Nothing is added. -/
lemma trim_subset (cs : List Char) : trim cs ⊆ cs := by
  intro c hc
  have hdrop : c ∈ cs.dropWhile isWhitespace :=
    (List.rdropWhile_prefix isWhitespace (cs.dropWhile isWhitespace)).subset hc
  exact (List.dropWhile_suffix isWhitespace).subset hdrop

/-- What stands behind the prefix. -/
lemma stripPrefix?_append (start s : String) : stripPrefix? (start ++ s) start = some s := by
  have hstart : startsWith (start ++ s) start = true := by
    rw [startsWith, String.toList_append, List.isPrefixOf_iff_prefix]
    exact List.prefix_append _ _
  rw [stripPrefix?, if_pos hstart, String.toList_append, List.drop_left, String.ofList_toList]

/-- What goes on past a value has the value. -/
lemma okOr_bind_eq_ok {α β : Type} {value : Option α} {err : String} {f : α → Except String β}
    {b : β} : (okOr value err >>= f) = .ok b ↔ ∃ a, value = some a ∧ f a = .ok b := by
  cases value with
  | none => exact ⟨nofun, nofun⟩
  | some a => exact ⟨fun h => ⟨a, rfl, h⟩, fun ⟨_, ha, h⟩ => Option.some.inj ha ▸ h⟩

/-- A number that fits is read back. -/
lemma parseUnsigned_toString {limit n : ℕ} (h : n < limit) :
    parseUnsigned limit (toString n) = some n := by
  have hdigit : ∀ c ∈ Nat.toDigits 10 n, c.isDigit = true := fun c hc =>
    Nat.isDigit_of_mem_toDigits (by omega) (by omega) hc
  have hplus : (Nat.toDigits 10 n).head? ≠ some '+' := fun hhead => by
    have := hdigit '+' (List.mem_of_mem_head? hhead)
    revert this
    decide
  have hne : Nat.toDigits 10 n ≠ [] := Nat.toDigits_ne_nil
  rw [parseUnsigned, PyText.toList_toString]
  simp only [if_neg hplus]
  rw [if_neg (by simp only [not_or, not_not, List.all_eq_true]; exact ⟨hne, hdigit⟩)]
  simp [h]

lemma getField_obj (d : Dict) (key : String) : getField (.obj d) key = d.get? key := rfl

/-- A text that is read is not empty. -/
lemma firstText_ne_empty {value : Json} {keys : List String} {s : String}
    (h : firstText value keys = some s) : s ≠ "" := by
  obtain ⟨key, -, hkey⟩ := List.exists_of_findSome?_eq_some h
  simpa using (Option.filter_eq_some_iff.mp hkey).2

end V2RayDar
