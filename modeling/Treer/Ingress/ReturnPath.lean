import Mathlib.Algebra.Order.Ring.Nat
import Treer.Protocol.Workload

/-!
# The way back to an ingress

After the sign-in a browser is sent back to a path on the origin of the ingress, together with
the cookie of the new session. The path is checked when the sign-in begins. The browser
reads it as a reference to a URL, in which a backslash is a slash.
-/

namespace Treer.Ingress

open Foundation Protocol List Text
variable {α : Type} {dropped : α → Bool} {first : α}

/-- A local absolute path. -/
def validateIngressReturnPath (value : String) : Except ProtocolError String :=
  if !Text.startsWith value "/" || Text.startsWith value "//" || value.utf8ByteSize > 4096 ||
      Text.hasControl value then
    .error ⟨"invalid_ingress_return_path", "ingress return path must be a local absolute path",
      none⟩
  else .ok value

/-- The origin of a URL. -/
structure Origin where
  (scheme host : String)
  port : Option Nat
  deriving DecidableEq

/-- For a scheme such as `https`. -/
def isSlash (char : Char) : Bool :=
  char == '/' || char == '\\'

/-- The host of an authority, and what comes after its colon, but for one in brackets. -/
def splitPort (inBrackets : Bool) : List Char → List Char × Option (List Char)
  | [] => ([], none)
  | char :: rest =>
    if char == ':' && !inBrackets then ([], some rest)
    else
      let (host, port) := splitPort (char == '[' || inBrackets && char != ']') rest
      (char :: host, port)

/-- The default port is no port. -/
def parsePort (digits : List Char) : Option (Option Nat) :=
  let port := Nat.ofDigitChars 10 digits 0
  if digits.all Char.isDigit && port < 2 ^ 16 then
    some (if digits = [] ∨ port = 443 then none else some port)
  else none

variable (parseHost : List Char → Option String)

/-- The authority of an `https` URL; user name and password end at the last `@`. -/
def parseAuthority (chars : List Char) : Option Origin := do
  let authority := chars.takeWhile fun char => !isSlash char && char != '?' && char != '#'
  let (host, port) := splitPort false (authority.rtakeWhile (· != '@'))
  let host ← if host.isEmpty then none else parseHost host
  let port ← parsePort (port.getD [])
  return ⟨"https", host, port⟩

/-- What a browser reads of a reference: no blanks around it, no tabs and line breaks. -/
def referenceChars (reference : String) : List Char :=
  let isBlank (char : Char) : Bool := char.toNat ≤ 0x20
  ((reference.toList.dropWhile isBlank).rdropWhile isBlank).filter fun char =>
    char != '\t' && char != '\n' && char != '\r'

/-- The origin of a reference without a scheme, against a base with the scheme `https`. -/
def resolve (base : Origin) (reference : String) : Option Origin :=
  match referenceChars reference with
  | first :: second :: rest =>
    if isSlash first && isSlash second then parseAuthority parseHost (rest.dropWhile isSlash)
    else some base
  | _ => some base

theorem rdropWhile_cons_of_neg (kept : dropped first = false) (rest : List α) :
    (first :: rest).rdropWhile dropped = first :: rest.rdropWhile dropped := by
  rw [rdropWhile, rdropWhile, reverse_cons, dropWhile_append]
  split
  · rename_i nothing
    simp [isEmpty_iff.mp nothing, kept]
  · simp

theorem head?_rdropWhile_eq_some_iff (kept : dropped first = false) {list : List α} :
    (list.rdropWhile dropped).head? = some first ↔ list.head? = some first := by
  constructor
  · intro head
    obtain ⟨others, read⟩ := head?_eq_some_iff.mp head
    obtain ⟨_, whole⟩ := rdropWhile_prefix dropped list
    rw [← whole, read]
    rfl
  · intro head
    obtain ⟨_, rfl⟩ := head?_eq_some_iff.mp head
    rw [rdropWhile_cons_of_neg kept]
    rfl

variable {value path : String}

theorem validateIngressReturnPath_eq_ok (accepted : validateIngressReturnPath value = .ok path) :
    path = value ∧ hasControl value = false ∧
      ∃ rest, value.toList = '/' :: rest ∧ rest.head? ≠ some '/' := by
  unfold validateIngressReturnPath at accepted
  split at accepted
  · cases accepted
  rename_i passed
  cases accepted
  simp only [Bool.or_eq_true, Bool.not_eq_true', not_or, Bool.not_eq_false,
    Bool.not_eq_true, startsWith] at passed
  obtain ⟨⟨⟨slash, single⟩, _⟩, plain⟩ := passed
  refine ⟨rfl, plain, ?_⟩
  obtain ⟨rest, chars⟩ := isPrefixOf_iff_prefix.mp slash
  refine ⟨rest, chars.symm, ?_⟩
  intro second
  obtain ⟨_, rfl⟩ := head?_eq_some_iff.mp second
  rw [← chars] at single
  cases single

/-- A browser reads an accepted path as it stands, but for blanks after it. -/
theorem referenceChars_of_accepted (accepted : validateIngressReturnPath value = .ok path) :
    ∃ rest, referenceChars path = '/' :: rest ∧ rest.head? ≠ some '/' ∧
      (rest.head? = some '\\' ↔ startsWith value "/\\" = true) := by
  obtain ⟨rfl, plain, rest, chars, single⟩ := validateIngressReturnPath_eq_ok accepted
  have shown : ∀ char ∈ rest, (char != '\t' && char != '\n' && char != '\r') = true := by
    intro char mem
    rw [hasControl, chars, any_eq_false] at plain
    have other : ∀ control, isControl control = true → char ≠ control := by
      rintro _ isControl rfl
      exact plain char (mem_cons_of_mem _ mem) isControl
    simp [other '\t' (by decide), other '\n' (by decide), other '\r' (by decide)]
  refine ⟨rest.rdropWhile fun char => decide (char.toNat ≤ 0x20), ?_, ?_, ?_⟩
  · rw [referenceChars, chars, dropWhile_cons_of_neg (by decide),
      rdropWhile_cons_of_neg (by decide), filter_cons_of_pos (by decide),
      filter_eq_self.mpr]
    exact fun char mem => shown char (( rdropWhile_prefix _ rest).subset mem)
  · rw [ne_eq, head?_rdropWhile_eq_some_iff (by decide)]
    exact single
  · rw [head?_rdropWhile_eq_some_iff (by decide), startsWith, chars]
    cases rest with
    | nil => decide
    | cons second =>
      rw [head?_cons, Option.some.injEq, eq_comm]
      change _ ↔ ('\\' == second && true) = true
      rw [Bool.and_true, beq_iff_eq]

/-- A browser stays on the origin of the ingress, whichever it is, exactly if the path has no
backslash after its first slash. -/
theorem return_path_stays_on_origin_iff (accepted : validateIngressReturnPath value = .ok path) :
    (∀ base : Origin, base.scheme = "https" → resolve parseHost base path = some base) ↔
      startsWith value "/\\" = false := by
  obtain ⟨rest, read, single, backslash⟩ := referenceChars_of_accepted accepted
  rw [← Bool.not_eq_true, ← backslash]
  constructor
  · intro stays second
    obtain ⟨others, rfl⟩ := head?_eq_some_iff.mp second
    have elsewhere : ∀ base, resolve parseHost base path =
        parseAuthority parseHost (others.dropWhile isSlash) := by
      intro base
      rw [resolve, read]
      rfl
    have first := stays ⟨"https", "first", none⟩ rfl
    have other := stays ⟨"https", "other", none⟩ rfl
    rw [elsewhere] at first other
    simp [first] at other
  · intro plain base _
    rw [resolve, read]
    cases rest with
    | nil => rfl
    | cons second =>
      have notSlash : isSlash second = false := by
        rw [isSlash, Bool.or_eq_false_iff, beq_eq_false_iff_ne, beq_eq_false_iff_ne]
        exact ⟨fun same => single (by rw [same]; rfl), fun same => plain (by rw [same]; rfl)⟩
      simp [notSlash]

theorem dashboard_stays_on_origin :
    resolve (fun host => some (String.ofList host)) ⟨"https", "app.example", none⟩ "/dashboard" =
      some ⟨"https", "app.example", none⟩ :=
  (return_path_stays_on_origin_iff _ (by decide +kernel : validateIngressReturnPath "/dashboard" =
    .ok "/dashboard")).mpr (by decide) _ rfl

/-- A browser takes the path to the host that is named after the backslash. -/
theorem backslash_leaves_origin :
    validateIngressReturnPath "/\\evil.example/x" = .ok "/\\evil.example/x" ∧
      resolve (fun host => some (String.ofList host)) ⟨"https", "app.example", none⟩
        "/\\evil.example/x" = some ⟨"https", "evil.example", none⟩ := by
  decide +kernel

end Treer.Ingress
