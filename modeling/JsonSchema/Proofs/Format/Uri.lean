import Mathlib
import JsonSchema.Format
import JsonSchema.Proofs.Format.Address
/-!
# Uniform resource identifiers

The grammar of identifiers as RFC 3986 writes it, and that the format `uri` reads exactly its texts
but for one letter (`isValid_uri_iff`). Each check is compared with its production. What makes the
cuts right is which characters the parts are made of (`over_scheme`, `over_authority`,
`over_hierPart`): a delimiter does not occur in the part in front of it. Paths are compared as a
whole, for the productions of a path differ only in how they begin (`mem_path_iff`).
-/

namespace JsonSchema

namespace Grammar

open scoped Computability

/-- One of some characters. -/
def among (s : String) : Language Char := one (· ∈ s.toList)

def alpha : Language Char := range 'A' 'Z' + range 'a' 'z'

def unreserved : Language Char := alpha + digit + among "-._~"

def subDelims : Language Char := among "!$&'()*+,;="

def pctEncoded : Language Char := char '%' * hexdig * hexdig

def pchar : Language Char := unreserved + pctEncoded + subDelims + char ':' + char '@'

def query : Language Char := (pchar + char '/' + char '?')∗

def fragment : Language Char := (pchar + char '/' + char '?')∗

def segment : Language Char := pchar∗

def segmentNz : Language Char := pchar * pchar∗

def pathAbempty : Language Char := (char '/' * segment)∗

def pathAbsolute : Language Char := char '/' * opt (segmentNz * (char '/' * segment)∗)

def pathRootless : Language Char := segmentNz * (char '/' * segment)∗

def pathEmpty : Language Char := 1

def regName : Language Char := (unreserved + pctEncoded + subDelims)∗

def port : Language Char := digit∗

def userinfo : Language Char := (unreserved + pctEncoded + subDelims + char ':')∗

def scheme : Language Char := alpha * (alpha + digit + among "+-.")∗

def ipvFuture : Language Char :=
  (char 'v' + char 'V') * (hexdig * hexdig∗) * char '.' *
    ((unreserved + subDelims + char ':') * (unreserved + subDelims + char ':')∗)

section

variable (literal : Language Char)

def host : Language Char := char '[' * literal * char ']' + ipv4Address + regName

def authority : Language Char := opt (userinfo * char '@') * host literal * opt (char ':' * port)

def hierPart : Language Char :=
  char '/' * char '/' * authority literal * pathAbempty + pathAbsolute + pathRootless + pathEmpty

def uriWith : Language Char :=
  scheme * char ':' * hierPart literal * opt (char '?' * query) * opt (char '#' * fragment)

end

def uri : Language Char := uriWith (ipv6Address + ipvFuture)

end Grammar

namespace Format

open Grammar JsonSchema.Text
open scoped Computability

variable {c : Char} {cs l r : List Char} {allowed : Char → Bool} {A : Language Char}

theorem isAlpha_iff_le : c.isAlpha = true ↔ ('A' ≤ c ∧ c ≤ 'Z') ∨ ('a' ≤ c ∧ c ≤ 'z') := by
  simp [Char.isAlpha, Char.isUpper, Char.isLower, Char.le_def]

theorem isAlphanumeric_of_isHexDigit (h : isHexDigit c = true) : isAlphanumeric c = true := by
  rw [isHexDigit_iff_le] at h
  rw [isAlphanumeric, Char.isAlphanum, Bool.or_eq_true, isAlpha_iff_le, isDigit_iff_le]
  simp only [le_iff_toNat] at *
  simp only [Char.reduceToNat] at *
  omega

theorem unreserved_eq : unreserved = one (isUnreserved · = true) := by
  simp only [unreserved, alpha, digit, range, among, one_add_one]
  refine one_congr fun c => ?_
  simp [isUnreserved, isAlphanumeric, Char.isAlphanum, isAlpha_iff_le, isDigit_iff_le]

theorem subDelims_eq : subDelims = one (isSubDelimiter · = true) := by
  refine one_congr fun c => ?_
  simp [isSubDelimiter]

theorem hexdig_eq : hexdig = one (isHexDigit · = true) := by
  simp only [hexdig, digit, range, one_add_one]
  refine one_congr fun c => ?_
  simp [isHexDigit_iff_le, or_assoc]

theorem digit_eq : digit = one (·.isDigit = true) := one_congr fun _ => isDigit_iff_le.symm

/-! ### Encoded texts -/

/-- Allowed characters and percent-encoded bytes. -/
def encoded (allowed : Char → Bool) : Language Char := (one (allowed · = true) + pctEncoded)∗

theorem mem_pctEncoded_mul : cs ∈ pctEncoded * A ↔ ∃ a b r, cs = '%' :: a :: b :: r ∧
    isHexDigit a = true ∧ isHexDigit b = true ∧ r ∈ A := by
  rw [pctEncoded, hexdig_eq, mul_assoc, mul_assoc, mem_char_mul]
  simp only [mem_one_mul]
  constructor
  · rintro ⟨_, rfl, a, _, rfl, ha, b, r, rfl, hb, hr⟩
    exact ⟨a, b, r, rfl, ha, hb, hr⟩
  · rintro ⟨a, b, r, rfl, ha, hb, hr⟩
    exact ⟨_, rfl, a, _, rfl, ha, b, r, rfl, hb, hr⟩

theorem mem_encoded : cs ∈ encoded allowed ↔ cs = [] ∨
    cs ∈ one (allowed · = true) * encoded allowed ∨ cs ∈ pctEncoded * encoded allowed := by
  rw [encoded, mem_kstar_iff, add_mul, Language.mem_add]

theorem mem_encoded_of_forall (h : ∀ c ∈ cs, allowed c = true) : cs ∈ encoded allowed := by
  induction cs with
  | nil => exact mem_encoded.2 (.inl rfl)
  | cons c cs ih =>
    obtain ⟨first, rest⟩ := List.forall_mem_cons.1 h
    exact mem_encoded.2 (.inr (.inl (cons_mem_one_mul.2 ⟨first, ih rest⟩)))

theorem isEncoded_iff (percent : allowed '%' = false) :
    isEncoded allowed cs = true ↔ cs ∈ encoded allowed := by
  fun_induction isEncoded allowed cs with
  | case1 => exact iff_of_true rfl (Language.nil_mem_kstar _)
  | case2 a b r ih =>
    rw [mem_encoded, cons_mem_one_mul, mem_pctEncoded_mul]
    simp [percent, ih, and_assoc]
  | case3 c r plain ih =>
    rw [mem_encoded, cons_mem_one_mul, mem_pctEncoded_mul]
    have notEncoded : ¬∃ a b r', c :: r = '%' :: a :: b :: r' ∧ isHexDigit a = true ∧
        isHexDigit b = true ∧ r' ∈ encoded allowed := by
      rintro ⟨a, b, r', same, -⟩
      cases same
      exact plain a b r' rfl rfl
    rw [or_iff_left notEncoded]
    simp [ih]

theorem regName_eq : regName = encoded fun c => isUnreserved c || isSubDelimiter c := by
  rw [regName, encoded, unreserved_eq, subDelims_eq, add_right_comm _ pctEncoded, one_add_one]
  simp only [Bool.or_eq_true]

theorem userinfo_eq :
    userinfo = encoded fun c => isUnreserved c || isSubDelimiter c || c == ':' := by
  rw [userinfo, encoded, unreserved_eq, subDelims_eq, char, add_right_comm _ pctEncoded,
    one_add_one, add_right_comm _ pctEncoded, one_add_one]
  simp only [Bool.or_eq_true, beq_iff_eq]

theorem pchar_eq : pchar = one (isPathChar · = true) + pctEncoded := by
  rw [pchar, unreserved_eq, subDelims_eq, char, char, add_right_comm _ pctEncoded, one_add_one,
    add_right_comm _ pctEncoded, one_add_one, add_right_comm _ pctEncoded, one_add_one]
  simp only [isPathChar, Bool.or_eq_true, beq_iff_eq]

theorem query_eq : query = encoded fun c => isPathChar c || c == '/' || c == '?' := by
  rw [query, encoded, pchar_eq, char, char, add_right_comm _ pctEncoded, one_add_one,
    add_right_comm _ pctEncoded, one_add_one]
  simp only [Bool.or_eq_true, beq_iff_eq]

theorem isQuery_iff : isQuery cs = true ↔ cs ∈ query := by
  rw [query_eq]
  exact isEncoded_iff rfl

theorem isQuery_iff_fragment : isQuery cs = true ↔ cs ∈ fragment := isQuery_iff

/-! ### Paths -/

def paths : Language Char := (pchar + char '/')∗

theorem paths_eq_encoded : paths = encoded fun c => isPathChar c || c == '/' := by
  rw [paths, encoded, pchar_eq, char, add_right_comm _ pctEncoded, one_add_one]
  simp only [Bool.or_eq_true, beq_iff_eq]

theorem isPath_iff : isPath cs = true ↔ cs ∈ paths := by
  rw [paths_eq_encoded]
  exact isEncoded_iff rfl

theorem paths_eq : paths = Grammar.segment * pathAbempty := add_kstar pchar (char '/')

theorem pathAbempty_eq : pathAbempty = opt (char '/' * paths) := by
  rw [paths_eq, ← mul_assoc, opt, pathAbempty, one_add_mul_kstar]

theorem pathRootless_eq : pathRootless = pchar * paths := by
  rw [paths_eq, ← mul_assoc]
  rfl

theorem pathAbsolute_eq : pathAbsolute = char '/' * opt (pchar * paths) := by
  rw [← pathRootless_eq]
  rfl

theorem mem_paths : cs ∈ paths ↔ cs = [] ∨ cs ∈ pchar * paths ∨ cs ∈ char '/' * paths := by
  rw [paths, mem_kstar_iff, add_mul, Language.mem_add]

/-- A path that does not begin with a slash is empty or begins with a segment that is not. -/
theorem exists_of_mem_pchar_mul (h : cs ∈ pchar * A) : ∃ c r, cs = c :: r ∧ c ≠ '/' := by
  rw [pchar_eq, add_mul, Language.mem_add, mem_one_mul, mem_pctEncoded_mul] at h
  rcases h with ⟨c, r, rfl, hc, -⟩ | ⟨a, b, r, rfl, -⟩
  · refine ⟨c, r, rfl, ?_⟩
    rintro rfl
    exact absurd hc (by decide)
  · exact ⟨'%', a :: b :: r, rfl, by decide⟩

theorem slash_not_mem_pchar_mul : '/' :: r ∉ pchar * A := by
  intro h
  obtain ⟨c, r', same, hc⟩ := exists_of_mem_pchar_mul h
  exact hc (List.cons.inj same).1.symm

/-- The paths without an authority are those that do not begin with two slashes. -/
theorem mem_path_iff : cs ∈ pathAbsolute + pathRootless + pathEmpty ↔
    cs ∈ paths ∧ ∀ r, cs ≠ '/' :: '/' :: r := by
  rw [pathAbsolute_eq, pathRootless_eq, pathEmpty, Language.mem_add, Language.mem_add,
    Language.mem_one, char]
  cases cs with
  | nil => simp [mem_paths]
  | cons c r =>
    by_cases hc : c = '/'
    · subst hc
      have cut : '/' :: r ∈ paths ↔ r ∈ paths := by
        rw [mem_paths, or_iff_right slash_not_mem_pchar_mul, char, cons_mem_one_mul]
        simp
      have rest : r ∈ paths ↔ r = [] ∨ r ∈ pchar * paths ∨ r ∈ char '/' * paths := mem_paths
      rw [cut, or_iff_left slash_not_mem_pchar_mul, cons_mem_one_mul, mem_opt, rest]
      constructor
      · rintro (⟨-, h | h⟩ | h)
        · exact ⟨.inl h, fun r' same => by cases same; cases h⟩
        · refine ⟨.inr (.inl h), fun r' same => ?_⟩
          cases same
          exact slash_not_mem_pchar_mul h
        · cases h
      · rintro ⟨h | h | h, single⟩
        · exact .inl ⟨rfl, .inl h⟩
        · exact .inl ⟨rfl, .inr h⟩
        · obtain ⟨r', rfl, -⟩ := mem_char_mul.1 h
          exact absurd rfl (single r')
    · have single : ∀ r', c :: r ≠ '/' :: '/' :: r' := fun r' same => hc (List.cons.inj same).1
      rw [mem_paths, and_iff_left single, cons_mem_one_mul, char, cons_mem_one_mul]
      simp [hc]

/-! ### Schemes and literals -/

theorem scheme_eq : scheme = one (·.isAlpha = true) *
    (one fun c => (isAlphanumeric c || "+-.".toList.contains c) = true)∗ := by
  have letter : alpha = one (·.isAlpha = true) := by
    rw [alpha, range, range, one_add_one]
    exact one_congr fun c => isAlpha_iff_le.symm
  rw [scheme, letter, digit_eq, among, one_add_one, one_add_one]
  simp only [isAlphanumeric, Char.isAlphanum, Bool.or_eq_true, List.contains_iff_mem]

theorem isScheme_iff : isScheme cs = true ↔ cs ∈ scheme := by
  rw [scheme_eq]
  cases cs with
  | nil => simp [isScheme]
  | cons c r => simp [isScheme, mem_one_kstar]

theorem over_scheme (h : c ∈ ":/?#[]@".toList) : Over (· ≠ c) scheme := by
  have outside : ∀ c ∈ ":/?#[]@".toList, c.isAlpha = false ∧
      (isAlphanumeric c || "+-.".toList.contains c) = false := forall_mem_of_all (by decide)
  obtain ⟨letter, sign⟩ := outside c h
  rw [scheme_eq]
  exact over_mul (over_one_of_false letter) (over_kstar (over_one_of_false sign))

/-- The characters of an address behind its version. -/
theorem address_eq : unreserved + subDelims + char ':' =
    one fun c => (isUnreserved c || isSubDelimiter c || c == ':') = true := by
  rw [unreserved_eq, subDelims_eq, char, one_add_one, one_add_one]
  simp only [Bool.or_eq_true, beq_iff_eq]

/-- The literals of future versions, if the mark of the version is a small letter. -/
theorem isFutureAddress_iff :
    isFutureAddress cs = true ↔ cs ∈ ipvFuture ∧ cs.head? ≠ some 'V' := by
  have digits : Over (· ≠ '.') (hexdig * hexdig∗) := by
    rw [hexdig_eq]
    have point : Over (· ≠ '.') (one (isHexDigit · = true)) := over_one_of_false rfl
    exact over_mul point (over_kstar point)
  have body {r : List Char} : r ∈ hexdig * hexdig∗ * (char '.' *
      ((unreserved + subDelims + char ':') * (unreserved + subDelims + char ':')∗)) ↔
      isFutureAddress ('v' :: r) = true := by
    rw [mem_sep_iff digits, hexdig_eq, address_eq]
    simp only [mem_one_plus, isFutureAddress]
    rcases splitFirst_cases '.' r with ⟨-, hs⟩ | ⟨a, b, -, -, hs⟩
    · simp [hs]
    · simp [hs, and_assoc]
  rw [ipvFuture, mul_assoc, mul_assoc, char, char, one_add_one]
  cases cs with
  | nil => simp [isFutureAddress]
  | cons c r =>
    rw [cons_mem_one_mul, body]
    by_cases hc : c = 'v'
    · subst hc
      simp
    · have refused : isFutureAddress (c :: r) = false := by
        unfold isFutureAddress
        split
        next same => exact absurd (List.cons.inj same).1 hc
        next => rfl
      rw [refused]
      refine iff_of_false Bool.false_ne_true ?_
      rintro ⟨⟨mark, -⟩, first⟩
      exact first (congrArg some (mark.resolve_left hc))

theorem over_ipvFuture : Over (fun c => (isUnreserved c || isSubDelimiter c || c == ':') = true)
    ipvFuture := by
  have mark {c : Char} (h : (isUnreserved c || isSubDelimiter c || c == ':') = true) :
      Over (fun c => (isUnreserved c || isSubDelimiter c || c == ':') = true) (char c) :=
    over_char h
  have version :
      Over (fun c => (isUnreserved c || isSubDelimiter c || c == ':') = true) hexdig := by
    rw [hexdig_eq]
    refine over_one fun c hc => ?_
    simp [isUnreserved, isAlphanumeric_of_isHexDigit hc]
  rw [ipvFuture, address_eq]
  refine over_mul (over_mul (over_mul (over_add (mark rfl) (mark rfl)) ?_) (mark rfl)) ?_
  · exact over_mul version (over_kstar version)
  · exact over_mul (over_one fun _ => id) (over_kstar (over_one fun _ => id))

theorem over_literal (h : c ∈ "/?#[]@".toList) : Over (· ≠ c) (ipv6Address + ipvFuture) := by
  have outside : ∀ c ∈ "/?#[]@".toList, (isHexDigit c = false ∧ c ≠ '.' ∧ c ≠ ':') ∧
      (isUnreserved c || isSubDelimiter c || c == ':') = false := forall_mem_of_all (by decide)
  obtain ⟨⟨hex, point, colon⟩, address⟩ := outside c h
  refine over_add (over_ipv6Address.mono ?_) (over_ipvFuture.mono ?_)
  · rintro x hx rfl
    simp [hex, point, colon] at hx
  · rintro x hx rfl
    rw [address] at hx
    cases hx

/-- What the formats admit between brackets. -/
def bracketed : Language Char := {l | (isIPv6 l || isFutureAddress l) = true}

theorem mem_bracketed : l ∈ bracketed ↔ isIPv6 l = true ∨ isFutureAddress l = true :=
  Bool.or_eq_true_iff

theorem mem_bracketed_iff :
    l ∈ bracketed ↔ l ∈ ipv6Address + ipvFuture ∧ l.head? ≠ some 'V' := by
  have number : l ∈ ipv6Address → l.head? ≠ some 'V' := by
    intro h first
    have := over_ipv6Address l h 'V' (List.mem_of_head? first)
    revert this
    decide
  rw [mem_bracketed, isFutureAddress_iff, isIPv6_iff, Language.mem_add, or_and_right,
    and_iff_left_of_imp number]

/-! ### Authorities -/

theorem over_bracketed (h : c ∈ "/?#[]@".toList) : Over (· ≠ c) bracketed :=
  fun l hl => over_literal h l (mem_bracketed_iff.1 hl).1

theorem over_encoded (s : String)
    (hs : ∀ c ∈ s.toList, allowed c = false ∧ isHexDigit c = false ∧ c ≠ '%') (h : c ∈ s.toList) :
    Over (· ≠ c) (encoded allowed) := by
  obtain ⟨refused, hex, percent⟩ := hs c h
  have digit : Over (· ≠ c) hexdig := by
    rw [hexdig_eq]
    exact over_one_of_false hex
  exact over_kstar (over_add (over_one_of_false refused)
    (over_mul (over_mul (over_char percent.symm) digit) digit))

theorem over_regName (h : c ∈ ":/?#[]@".toList) : Over (· ≠ c) regName := by
  rw [regName_eq]
  exact over_encoded ":/?#[]@" (forall_mem_of_all (by decide)) h

theorem over_userinfo (h : c ∈ "/?#[]@".toList) : Over (· ≠ c) userinfo := by
  rw [userinfo_eq]
  exact over_encoded "/?#[]@" (forall_mem_of_all (by decide)) h

theorem over_paths (h : c ∈ "?#[]".toList) : Over (· ≠ c) paths := by
  rw [paths_eq_encoded]
  exact over_encoded "?#[]" (forall_mem_of_all (by decide)) h

theorem over_query (h : c ∈ "#[]".toList) : Over (· ≠ c) query := by
  rw [query_eq]
  exact over_encoded "#[]" (forall_mem_of_all (by decide)) h

theorem over_port (h : c ∈ ":/?#[]@".toList) : Over (· ≠ c) port := by
  have outside : ∀ c ∈ ":/?#[]@".toList, c.isDigit = false := forall_mem_of_all (by decide)
  rw [port, digit_eq]
  exact over_kstar (over_one_of_false (outside c h))

theorem ipv4_add_regName : ipv4Address + regName = regName := by
  refine add_eq_right_iff_le.2 fun w hw => ?_
  rw [regName_eq]
  refine mem_encoded_of_forall fun c hc => ?_
  rcases over_ipv4Address w hw c hc with hc | rfl
  · simp [isUnreserved, isAlphanumeric, Char.isAlphanum, hc]
  · decide

theorem isPortSuffix_iff : isPortSuffix cs = true ↔ cs ∈ opt (char ':' * port) := by
  rw [mem_opt, char, port, digit_eq]
  cases cs with
  | nil => simp [isPortSuffix]
  | cons c r => simp [isPortSuffix, mem_one_kstar]

theorem mem_hostPort {literal : Language Char} : cs ∈ host literal * A ↔
    cs ∈ char '[' * (literal * (char ']' * A)) ∨ cs ∈ regName * A := by
  rw [host, add_assoc, ipv4_add_regName, add_mul, Language.mem_add]
  simp only [mul_assoc]

theorem isHostPort_iff : isHostPort cs = true ↔ cs ∈ host bracketed * opt (char ':' * port) := by
  rw [mem_hostPort]
  unfold isHostPort
  split
  next r =>
    have named : '[' :: r ∉ regName * opt (char ':' * port) := by
      intro h
      have free : Over (· ≠ '[') (regName * opt (char ':' * port)) :=
        over_mul (over_regName (by decide))
          (over_opt (over_mul (over_char (by decide)) (over_port (by decide))))
      exact free.not_mem h List.mem_cons_self
    rw [or_iff_left named, char, cons_mem_one_mul, mem_sep_iff (over_bracketed (by decide))]
    rcases splitFirst_cases ']' r with ⟨-, hs⟩ | ⟨a, b, -, -, hs⟩
    · simp [hs]
    · simp [hs, isPortSuffix_iff, mem_bracketed]
  next bare =>
    have unbracketed : cs ∉ char '[' * (bracketed * (char ']' * opt (char ':' * port))) := by
      intro h
      obtain ⟨r, rfl, -⟩ := mem_char_mul.1 h
      exact bare r rfl
    rw [or_iff_right unbracketed, mem_opt_sep_iff (over_regName (by decide)), regName_eq,
      ← isEncoded_iff rfl, port, digit_eq]
    rcases splitFirst_cases ':' cs with ⟨-, hs⟩ | ⟨a, b, -, -, hs⟩
    · simp [hs]
    · simp [hs, mem_one_kstar]

section

variable {literal : Language Char} (brackets : Over (· ≠ c) (char '[' * literal * char ']'))

include brackets

theorem over_hostPort (h : c ∈ "@/?#[]".toList) :
    Over (· ≠ c) (host literal * opt (char ':' * port)) := by
  have outside : ∀ c ∈ "@/?#[]".toList, c ∈ ":/?#[]@".toList ∧ ':' ≠ c :=
    forall_mem_of_all (by decide)
  obtain ⟨delimiter, colon⟩ := outside c h
  rw [host, add_assoc, ipv4_add_regName]
  refine over_mul (over_add brackets (over_regName delimiter)) ?_
  exact over_opt (over_mul (over_char colon) (over_port delimiter))

theorem over_authority (h : c ∈ "/?#[]".toList) : Over (· ≠ c) (authority literal) := by
  have outside : ∀ c ∈ "/?#[]".toList,
      c ∈ "/?#[]@".toList ∧ c ∈ "@/?#[]".toList ∧ '@' ≠ c := forall_mem_of_all (by decide)
  obtain ⟨delimiter, behind, sign⟩ := outside c h
  rw [authority, mul_assoc]
  exact over_mul (over_opt (over_mul (over_userinfo delimiter) (over_char sign)))
    (over_hostPort brackets behind)

end

/-- The literals stand in brackets, and there is no other delimiter in them. -/
theorem over_brackets (h : c ∈ "@/?#".toList) : Over (· ≠ c) (char '[' * bracketed * char ']') := by
  have outside : ∀ c ∈ "@/?#".toList, c ∈ "/?#[]@".toList ∧ '[' ≠ c ∧ ']' ≠ c :=
    forall_mem_of_all (by decide)
  obtain ⟨delimiter, left, right⟩ := outside c h
  exact over_mul (over_mul (over_char left) (over_bracketed delimiter)) (over_char right)

theorem isAuthority_iff : isAuthority cs = true ↔ cs ∈ authority bracketed := by
  rw [authority, mul_assoc, mem_opt_front_iff (over_userinfo (by decide))
    (over_hostPort (over_brackets (by decide)) (by decide)), userinfo_eq]
  have user (a : List Char) :
      isEncoded (fun c => isUnreserved c || isSubDelimiter c || c == ':') a = true ↔
        a ∈ encoded fun c => isUnreserved c || isSubDelimiter c || c == ':' := isEncoded_iff rfl
  simp only [← isHostPort_iff, ← user]
  unfold isAuthority
  rcases splitFirst_cases '@' cs with ⟨-, hs⟩ | ⟨a, b, -, -, hs⟩
  · simp [hs]
  · simp [hs]

theorem hierPart_eq (literal : Language Char) : hierPart literal =
    char '/' * (char '/' * (authority literal * opt (char '/' * paths))) +
      (pathAbsolute + pathRootless + pathEmpty) := by
  rw [hierPart, pathAbempty_eq]
  simp only [mul_assoc, add_assoc]

theorem isHierarchy_iff : isHierarchy cs = true ↔ cs ∈ hierPart bracketed := by
  rw [hierPart_eq, Language.mem_add, mem_path_iff]
  unfold isHierarchy
  split
  next r =>
    have doubled : ¬∀ r', '/' :: '/' :: r ≠ '/' :: '/' :: r' := fun h => h r rfl
    rw [or_iff_left fun h => doubled h.2, char, cons_mem_one_mul, cons_mem_one_mul, ← char,
      mem_opt_sep_iff (over_authority (over_brackets (by decide)) (by decide)), ← isAuthority_iff]
    simp only [← isPath_iff]
    rcases splitFirst_cases '/' r with ⟨-, hs⟩ | ⟨a, b, -, -, hs⟩
    · simp [hs, show isPath [] = true from rfl]
    · simp [hs]
  next single =>
    have bare : cs ∉ char '/' * (char '/' * (authority bracketed * opt (char '/' * paths))) := by
      intro h
      obtain ⟨_, rfl, second⟩ := mem_char_mul.1 h
      obtain ⟨r, rfl, -⟩ := mem_char_mul.1 second
      exact single r rfl
    rw [or_iff_right bare, isPath_iff]
    exact (and_iff_left single).symm

theorem over_hierPart {literal : Language Char}
    (brackets : Over (· ≠ c) (char '[' * literal * char ']')) (h : c ∈ "?#[]".toList) :
    Over (· ≠ c) (hierPart literal) := by
  have outside : ∀ c ∈ "?#[]".toList, c ∈ "/?#[]".toList ∧ '/' ≠ c := forall_mem_of_all (by decide)
  obtain ⟨behind, slash⟩ := outside c h
  rw [hierPart_eq]
  refine over_add (over_mul (over_char slash) (over_mul (over_char slash) (over_mul ?_ ?_))) ?_
  · exact over_authority brackets behind
  · exact over_opt (over_mul (over_char slash) (over_paths h))
  · exact fun w hw => over_paths h w (mem_path_iff.1 hw).1

theorem isUri_iff : isUri cs = true ↔ cs ∈ uriWith bracketed := by
  have hierarchy : Over (· ≠ '?') (hierPart bracketed) :=
    over_hierPart (over_brackets (by decide)) (by decide)
  have queried : Over (· ≠ '#') (hierPart bracketed * opt (char '?' * query)) :=
    over_mul (over_hierPart (over_brackets (by decide)) (by decide))
      (over_opt (over_mul (over_char (by decide)) (over_query (by decide))))
  have grouped : uriWith bracketed = scheme * (char ':' *
      (hierPart bracketed * opt (char '?' * query) * opt (char '#' * fragment))) := by
    rw [uriWith]
    simp only [mul_assoc]
  rw [grouped, mem_sep_iff (over_scheme (by decide))]
  simp only [mem_opt_sep_iff queried, mem_opt_sep_iff hierarchy, ← isScheme_iff, ← isHierarchy_iff,
    ← isQuery_iff, ← isQuery_iff_fragment]
  unfold isUri
  rcases splitFirst_cases ':' cs with ⟨-, hs⟩ | ⟨a, b, -, -, hs⟩
  · simp [hs]
  · have absent : isQuery [] = true := rfl
    rcases splitFirst_cases '#' b with ⟨-, hf⟩ | ⟨rest, fragment, -, -, hf⟩
    · rcases splitFirst_cases '?' b with ⟨-, hq⟩ | ⟨path, query, -, -, hq⟩
      · simp [hs, hf, hq, absent]
      · simp [hs, hf, hq, absent, and_assoc]
    · rcases splitFirst_cases '?' rest with ⟨-, hq⟩ | ⟨path, query, -, -, hq⟩
      · simp [hs, hf, hq, absent, and_assoc]
      · simp [hs, hf, hq, and_assoc]

/-! ### Identifiers with a literal -/

/-- What stands in front of a literal. -/
def beforeLiteral : Language Char :=
  scheme * (char ':' * (char '/' * (char '/' * opt (userinfo * char '@'))))

/-- What stands behind a literal. -/
def afterLiteral : Language Char :=
  opt (char ':' * port) * (pathAbempty * (opt (char '?' * query) * opt (char '#' * fragment)))

theorem uriWith_eq (literal : Language Char) : uriWith literal =
    uriWith 0 + beforeLiteral * (char '[' * (literal * (char ']' * afterLiteral))) := by
  simp only [uriWith, hierPart, authority, host, beforeLiteral, afterLiteral, mul_add, add_mul,
    mul_assoc, mul_zero, zero_mul, zero_add]
  ac_rfl

theorem over_behindPath :
    Over (· ≠ '[') (opt (char '?' * query) * opt (char '#' * fragment)) := by
  have asked : Over (· ≠ '[') (char '?' * query) :=
    over_mul (over_char (by decide)) (over_query (by decide))
  have marked : Over (· ≠ '[') (char '#' * fragment) :=
    over_mul (over_char (by decide)) (over_query (by decide))
  exact over_mul (over_opt asked) (over_opt marked)

/-- Without literals there is no bracket. -/
theorem over_uriWith_zero : Over (· ≠ '[') (uriWith 0) := by
  have brackets : Over (· ≠ '[') (char '[' * 0 * char ']') := by
    rw [mul_zero, zero_mul]
    rintro w ⟨⟩
  have colon : Over (· ≠ '[') (char ':') := over_char (by decide)
  have hierarchy : Over (· ≠ '[') (hierPart 0) := over_hierPart brackets (by decide)
  rw [uriWith, mul_assoc (scheme * char ':' * hierPart 0)]
  exact over_mul (over_mul (over_mul (over_scheme (by decide)) colon) hierarchy) over_behindPath

theorem over_beforeLiteral : Over (· ≠ '[') beforeLiteral := by
  have slash : Over (· ≠ '[') (char '/') := over_char (by decide)
  have user : Over (· ≠ '[') (userinfo * char '@') :=
    over_mul (over_userinfo (by decide)) (over_char (by decide))
  exact over_mul (over_scheme (by decide))
    (over_mul (over_char (by decide)) (over_mul slash (over_mul slash (over_opt user))))

theorem over_afterLiteral : Over (· ≠ '[') afterLiteral := by
  have behindHost : Over (· ≠ '[') (char ':' * port) :=
    over_mul (over_char (by decide)) (over_port (by decide))
  have path : Over (· ≠ '[') pathAbempty := by
    rw [pathAbempty_eq]
    exact over_opt (over_mul (over_char (by decide)) (over_paths (by decide)))
  exact over_mul (over_opt behindHost) (over_mul path over_behindPath)

/-- The only bracket that opens is the one in front of the literal. -/
theorem not_infix_literal_iff {a b : List Char} (ha : a ∈ beforeLiteral)
    (hl : l ∈ ipv6Address + ipvFuture) (hb : b ∈ afterLiteral) :
    ¬['[', 'V'] <:+: a ++ '[' :: (l ++ ']' :: b) ↔ l.head? ≠ some 'V' := by
  have closed : '[' ∉ ']' :: b :=
    List.not_mem_cons_of_ne_of_not_mem (by decide) (over_afterLiteral.not_mem hb)
  have first : (l ++ ']' :: b).head? ≠ some 'V' ↔ l.head? ≠ some 'V' := by
    cases l with
    | nil => simp
    | cons x l => rfl
  rw [not_infix_iff_eachFollowed, eachFollowed_append (over_beforeLiteral.not_mem ha),
    eachFollowed_cons, eachFollowed_append ((over_literal (by decide)).not_mem hl), first]
  simp [eachFollowed_of_not_mem closed]

theorem mem_uriWith_bracketed_iff :
    cs ∈ uriWith bracketed ↔ cs ∈ Grammar.uri ∧ ¬['[', 'V'] <:+: cs := by
  rw [Grammar.uri, uriWith_eq bracketed, uriWith_eq (ipv6Address + ipvFuture), Language.mem_add,
    Language.mem_add, or_and_right]
  refine or_congr ?_ ?_
  · refine (and_iff_left_of_imp fun h => ?_).symm
    rw [not_infix_iff_eachFollowed]
    exact eachFollowed_of_not_mem (over_uriWith_zero.not_mem h)
  · -- both sides are cut at the same brackets, so only the literals are compared
    simp only [mem_sep]
    constructor
    · rintro ⟨a, ha, _, ⟨l, hl, b, hb, rfl⟩, rfl⟩
      obtain ⟨literal, mark⟩ := mem_bracketed_iff.1 hl
      exact ⟨⟨a, ha, _, ⟨l, literal, b, hb, rfl⟩, rfl⟩,
        (not_infix_literal_iff ha literal hb).2 mark⟩
    · rintro ⟨⟨a, ha, _, ⟨l, literal, b, hb, rfl⟩, rfl⟩, absent⟩
      have mark := (not_infix_literal_iff ha literal hb).1 absent
      exact ⟨a, ha, _, ⟨l, mem_bracketed_iff.2 ⟨literal, mark⟩, b, hb, rfl⟩, rfl⟩

/-- The format `uri` admits the texts of the production, except that it takes the mark of a future
version for a small letter only. The literals of version 6 are those of the format `ipv6`. -/
theorem isValid_uri_iff {s : String} :
    (ipv6.isValid s = true ↔ s.toList ∈ ipv6Address) ∧
      (uri.isValid s = true ↔ s.toList ∈ Grammar.uri ∧ ¬['[', 'V'] <:+: s.toList) :=
  ⟨isIPv6_iff, isUri_iff.trans mem_uriWith_bracketed_iff⟩

/-- The mark of the version may be a capital letter. -/
theorem isValid_uri_capital :
    "http://[V1.a]".toList ∈ Grammar.uri ∧ uri.isValid "http://[V1.a]" = false := by
  refine ⟨?_, by decide +kernel⟩
  have version : "V1.a".toList ∈ ipvFuture := by
    have number : "1".toList ∈ hexdig * hexdig∗ := by
      rw [hexdig_eq, mem_one_plus]
      exact ⟨by decide, forall_mem_of_all (by decide)⟩
    have address : "a".toList ∈ (unreserved + subDelims + char ':') *
        (unreserved + subDelims + char ':')∗ := by
      rw [address_eq, mem_one_plus]
      exact ⟨by decide, forall_mem_of_all (by decide)⟩
    rw [ipvFuture, mul_assoc, mul_assoc, char, char, one_add_one]
    exact cons_mem_one_mul.2 ⟨.inr rfl, mem_sep.2 ⟨_, number, _, address, rfl⟩⟩
  have front : "http://".toList ∈ beforeLiteral :=
    mem_sep.2 ⟨"http".toList, isScheme_iff.1 (by decide), "//".toList,
      mem_char_mul.2 ⟨_, rfl, mem_char_mul.2 ⟨_, rfl, mem_opt.2 (.inl rfl)⟩⟩, rfl⟩
  have back : [] ∈ afterLiteral := by
    have left {L : Language Char} : [] ∈ opt L := mem_opt.2 (.inl rfl)
    have behind : [] ++ ([] ++ []) ∈
        pathAbempty * (opt (char '?' * query) * opt (char '#' * fragment)) :=
      Language.append_mem_mul (Language.nil_mem_kstar _) (Language.append_mem_mul left left)
    exact Language.append_mem_mul left behind
  rw [Grammar.uri, uriWith_eq]
  exact .inr (mem_sep.2 ⟨_, front, _, mem_sep.2 ⟨_, .inr version, _, back, rfl⟩, rfl⟩)

end Format

end JsonSchema
