import JsonSchema.Proofs.Format.NamePatterns
import JsonSchema.Proofs.Pattern.Rounds
/-!
# The patterns of identifiers

The pattern of the format `uri` is the grammar of RFC 3986, except that it lets anything stand
between brackets but a slash and the closing bracket (`lang_uriParts`). What stands there is captured
and must be an address of version 6 or match the pattern of future versions. Only a literal has
brackets, so it is found behind the first one, however the text is matched (`literal?_append`), and
the check of the format is that of the patterns (`isValid_uri_eq`).
-/

namespace JsonSchema.Format

open Grammar JsonSchema.Text
open Pattern (Regex)
open Pattern.Regex (inOrder anchored)
open Pattern.CharSet (singles classOf mem_classOf mem_classOf_append mem_classOf_singles)
open scoped Computability

variable {cs : List Char}

/-! ### As they are written -/

def futurePattern : String := "^v[0-9A-Fa-f]+\\.[A-Za-z0-9\\-._~!$&'()*+,;=:]+$"

/-! The pattern of identifiers is put together from parts, each a list of texts. -/

def unreservedTexts : List String := ["A-Za-z0-9\\-._~"]

def subDelimTexts : List String := ["!$&'()*+,;="]

def pctTexts : List String := ["%[0-9A-Fa-f]\x7b2\x7d"]

/-- Characters that may stand everywhere, those of `signs`, and bytes, any of them so often. -/
def unitTexts (signs copies : String) : List String :=
  ["(?:["] ++ unreservedTexts ++ subDelimTexts ++ [signs, "]|"] ++ pctTexts ++ [")", copies]

def userinfoTexts : List String := unitTexts ":" "*"

def regNameTexts : List String := unitTexts "" "*"

def hostTexts : List String :=
  ["(?:\\[(?P<literal>[^\\]/]*)\\]|"] ++ regNameTexts ++ [")"]

def authorityTexts : List String :=
  ["(?:"] ++ userinfoTexts ++ ["@)?"] ++ hostTexts ++ ["(?::[0-9]*)?"]

def segmentTexts : List String := unitTexts ":@" "*"

def segmentNzTexts : List String := unitTexts ":@" "+"

def hierPartTexts : List String :=
  ["(?://"] ++ authorityTexts ++ ["(?:/"] ++ segmentTexts ++ [")*|/(?:"] ++ segmentNzTexts ++
    ["(?:/"] ++ segmentTexts ++ [")*)?|"] ++ segmentNzTexts ++ ["(?:/"] ++ segmentTexts ++ [")*|)"]

def queryTexts : List String := unitTexts ":@/?" "*"

def uriTexts : List String :=
  ["^[A-Za-z][A-Za-z0-9+\\-.]*:"] ++ hierPartTexts ++ ["(?:\\?"] ++ queryTexts ++ [")?(?:#"] ++
    queryTexts ++ [")?$"]

def uriPattern : String := String.join uriTexts

/-! ### As they are read -/

def hexadecimals : List (Char × Char) := [('0', '9'), ('A', 'F'), ('a', 'f')]

/-- The characters of a text besides those that may stand everywhere. -/
def plain (others : String) : List (Char × Char) :=
  alphanumeric ++ singles "-._~" ++ singles "!$&'()*+,;=" ++ singles others

def futureParts : List Regex :=
  [.char 'v', .repeated (.oneOf hexadecimals) 1 none, .char '.',
    .repeated (.oneOf (plain ":")) 1 none]

/-- A byte written in two digits. -/
def pctPart : Regex := inOrder [.char '%', .repeated (.oneOf hexadecimals) 2 (some 2)]

def unitPart (others : String) : Regex := .alt (.oneOf (plain others)) pctPart

def unitsPart (others : String) : Regex := .repeated (unitPart others) 0 none

/-- A class after a circumflex. -/
def literalPart : Regex :=
  .repeated (.set (.compl (.union (.single ']') (.single '/')))) 0 none

def hostPart : Regex := .alt (inOrder [.char '[', literalPart, .char ']']) (unitsPart "")

def authorityParts : List Regex :=
  [.repeated (inOrder [unitsPart ":", .char '@']) 0 (some 1), hostPart,
    .repeated (inOrder [.char ':', .repeated (.oneOf [('0', '9')]) 0 none]) 0 (some 1)]

def segmentsPart : Regex := .repeated (inOrder [.char '/', unitsPart ":@"]) 0 none

def rootlessParts : List Regex := [.repeated (unitPart ":@") 1 none, segmentsPart]

def hierPart : Regex :=
  .alt (inOrder (.char '/' :: .char '/' :: (authorityParts ++ [segmentsPart])))
    (.alt (inOrder [.char '/', .repeated (inOrder rootlessParts) 0 (some 1)])
      (.alt (inOrder rootlessParts) .empty))

/-- A query or fragment behind its mark. -/
def behindPart (mark : Char) : Regex :=
  .repeated (inOrder [.char mark, unitsPart ":@/?"]) 0 (some 1)

def uriParts : List Regex :=
  [.oneOf [('A', 'Z'), ('a', 'z')], .repeated (.oneOf (alphanumeric ++ singles "+-.")) 0 none,
    .char ':', hierPart, behindPart '?', behindPart '#']

theorem read?_future : Regex.read? futurePattern = some (anchored futureParts) := by
  decide +kernel

theorem read?_uri : Regex.read? uriPattern = some (anchored uriParts) := by
  change _ = some (Pattern.Piece.regex ⟨anchored uriParts, 17, true⟩)
  apply Regex.read?_of_spells
  · simp only [uriTexts, hierPartTexts, authorityTexts, hostTexts, queryTexts, segmentNzTexts,
      segmentTexts, regNameTexts, userinfoTexts, unitTexts, pctTexts, subDelimTexts,
      unreservedTexts, List.cons_append, List.nil_append]
    repeat' (apply Unicode.Spells.cons; exact String.toList_ofList)
    exact .nil
  · -- the name of the group is looked up in the table of letters, and all else is evaluated
    apply Pattern.readFrom_start 22 549 103 "literal".toList
    · decide +kernel
    · decide +kernel
    · decide
    · exact forall_mem_of_all (by decide)
    · decide +kernel
  · decide +kernel

/-! ### What they match -/

theorem lang_hexadecimals : one (· ∈ classOf hexadecimals) = hexdig := by
  rw [hexdig_eq]
  refine one_congr fun c => ?_
  simp [mem_classOf, hexadecimals, isHexDigit_iff_le, or_comm]

theorem lang_digit : one (· ∈ classOf [('0', '9')]) = digit :=
  one_congr fun c => by simp [mem_classOf]

theorem lang_alpha : one (· ∈ classOf [('A', 'Z'), ('a', 'z')]) = alpha := by
  rw [alpha, range, range, one_add_one]
  exact one_congr fun c => by simp [mem_classOf]

theorem lang_alphanumeric (others : String) :
    one (· ∈ classOf (alphanumeric ++ singles others)) = alpha + digit + among others := by
  rw [alpha, digit, range, range, range, among, one_add_one, one_add_one, one_add_one]
  refine one_congr fun c => ?_
  rw [mem_classOf_append, mem_classOf_singles]
  simp [mem_classOf, alphanumeric, or_assoc]

theorem lang_plain (others : String) :
    one (· ∈ classOf (plain others)) = unreserved + subDelims + among others := by
  rw [unreserved_eq, subDelims_eq, among, one_add_one, one_add_one]
  refine one_congr fun c => ?_
  simp [plain, mem_classOf_append, mem_classOf_singles, mem_alphanumeric, isUnreserved,
    isSubDelimiter, or_assoc]

theorem among_colon : among ":" = Grammar.char ':' := one_congr fun c => by simp

/-- The pattern of future versions differs from the grammar in the mark of the version only. -/
theorem exists_lang_futureParts : ∃ L, (inOrder futureParts).lang = Grammar.char 'v' * L ∧
    ipvFuture = (Grammar.char 'v' + Grammar.char 'V') * L := by
  refine ⟨hexdig * (hexdig∗ * (Grammar.char '.' * ((unreserved + subDelims + Grammar.char ':') *
    (unreserved + subDelims + Grammar.char ':')∗))), ?_, ?_⟩
  · simp [futureParts, lang_hexadecimals, lang_plain, among_colon, mul_assoc]
  · simp only [ipvFuture, mul_assoc]

theorem mem_futureParts : cs ∈ (inOrder futureParts).lang ↔ isFutureAddress cs = true := by
  obtain ⟨L, parts, future⟩ := exists_lang_futureParts
  rw [parts, isFutureAddress_iff, future, Grammar.char, Grammar.char, one_add_one]
  cases cs with
  | nil => simp
  | cons c r =>
    simp only [cons_mem_one_mul, List.head?_cons, ne_eq, Option.some.injEq]
    constructor
    · rintro ⟨rfl, rest⟩
      exact ⟨⟨.inl rfl, rest⟩, by decide⟩
    · rintro ⟨⟨mark, rest⟩, small⟩
      exact ⟨mark.resolve_right small, rest⟩

theorem lang_pctPart : pctPart.lang = pctEncoded := by
  simp [pctPart, lang_hexadecimals, pctEncoded, pow_two, mul_assoc]

theorem lang_unitPart (others : String) :
    (unitPart others).lang = unreserved + pctEncoded + subDelims + among others := by
  rw [unitPart, Regex.lang_alt, Regex.lang_oneOf, lang_plain, lang_pctPart]
  ac_rfl

theorem lang_regName : (unitsPart "").lang = regName := by
  have none : among "" = 0 := by
    ext w
    simp [among, mem_one]
  rw [unitsPart, Regex.lang_any, lang_unitPart, none, add_zero]
  rfl

theorem lang_userinfo : (unitsPart ":").lang = userinfo := by
  rw [unitsPart, Regex.lang_any, lang_unitPart, among_colon]
  rfl

theorem lang_pchar : (unitPart ":@").lang = pchar := by
  have signs : among ":@" = Grammar.char ':' + Grammar.char '@' := by
    rw [Grammar.char, Grammar.char, one_add_one]
    exact one_congr fun c => by simp
  rw [lang_unitPart, signs, pchar, add_assoc _ (Grammar.char ':')]

theorem lang_query : (unitsPart ":@/?").lang = query := by
  have signs : among ":@/?" =
      Grammar.char ':' + Grammar.char '@' + Grammar.char '/' + Grammar.char '?' := by
    rw [Grammar.char, Grammar.char, Grammar.char, Grammar.char, one_add_one, one_add_one,
      one_add_one]
    exact one_congr fun c => by simp [or_assoc]
  rw [unitsPart, Regex.lang_any, lang_unitPart, signs, query, pchar]
  simp only [add_assoc]

/-- What the pattern admits between brackets. -/
def enclosed : Language Char := (one fun c => c ≠ ']' ∧ c ≠ '/')∗

theorem lang_literalPart : literalPart.lang = enclosed := by
  rw [literalPart, Regex.lang_any, enclosed, Regex.lang]
  congr 1
  refine one_congr fun c => ?_
  simp [Pattern.CharSet.mem_compl, Pattern.CharSet.mem_union, Pattern.CharSet.mem_single]

theorem lang_hostPart : hostPart.lang = host enclosed := by
  rw [host, add_assoc, ipv4_add_regName]
  simp [hostPart, lang_literalPart, lang_regName, mul_assoc]

theorem lang_authorityParts : (inOrder authorityParts).lang = authority enclosed := by
  simp [authorityParts, authority, port, lang_userinfo, lang_hostPart, lang_digit, mul_assoc]

theorem lang_segmentsPart : segmentsPart.lang = pathAbempty := by
  simp [segmentsPart, unitsPart, lang_pchar, pathAbempty, Grammar.segment]

theorem lang_rootlessParts : (inOrder rootlessParts).lang = pathRootless := by
  simp [rootlessParts, lang_pchar, lang_segmentsPart, pathRootless, pathAbempty, segmentNz]

theorem lang_hierPart : hierPart.lang = Grammar.hierPart enclosed := by
  have absolute : pathAbsolute = Grammar.char '/' * opt pathRootless := rfl
  simp [hierPart, lang_authorityParts, lang_segmentsPart, lang_rootlessParts, Grammar.hierPart,
    absolute, pathEmpty, mul_assoc, sup_assoc]

theorem lang_behindPart (mark : Char) :
    (behindPart mark).lang = opt (Grammar.char mark * query) := by
  simp [behindPart, lang_query]

/-- The pattern is the grammar with other literals. -/
theorem lang_uriParts : (inOrder uriParts).lang = uriWith enclosed := by
  have same : fragment = query := rfl
  simp [uriParts, uriWith, scheme, lang_alpha, lang_alphanumeric, lang_hierPart, lang_behindPart,
    same, mul_assoc]

/-! ### What is captured -/

/-- The text behind the first bracket, up to the next that closes. -/
def literal? (cs : List Char) : Option (List Char) :=
  (splitFirst '[' cs).2.map fun r => (splitFirst ']' r).1

/-- However a text is matched, this is the part that stands for the literal. -/
theorem literal?_append {a l d : List Char} (ha : a ∈ beforeLiteral) (hl : l ∈ enclosed) :
    literal? (a ++ '[' :: (l ++ ']' :: d)) = some l := by
  have closing : Over (· ≠ ']') enclosed := over_kstar (over_one fun _ hc => hc.1)
  rw [literal?, splitFirst_append (over_beforeLiteral.not_mem ha), Option.map_some,
    splitFirst_append (closing.not_mem hl)]

theorem literal?_eq_none (h : cs ∈ uriWith 0) : literal? cs = none := by
  rw [literal?, splitFirst_of_not_mem (over_uriWith_zero.not_mem h)]
  rfl

theorem mem_enclosed_of_bracketed {l : List Char} (h : l ∈ bracketed) : l ∈ enclosed :=
  mem_one_kstar.2 fun c hc => ⟨over_bracketed (by decide) l h c hc,
    over_bracketed (by decide) l h c hc⟩

theorem isUri_iff_enclosed : isUri cs = true ↔ cs ∈ uriWith enclosed ∧
    ∀ l ∈ literal? cs, isIPv6 l = true ∨ isFutureAddress l = true := by
  rw [isUri_iff, uriWith_eq bracketed, uriWith_eq enclosed, Language.mem_add, Language.mem_add]
  simp only [mem_sep]
  -- both grammars cut a text at its first bracket, and only the literal behind it differs
  constructor
  · rintro (bare | ⟨a, ha, _, ⟨l, hl, d, hd, rfl⟩, rfl⟩)
    · rw [literal?_eq_none bare]
      exact ⟨.inl bare, by simp⟩
    · have inside := mem_enclosed_of_bracketed hl
      rw [literal?_append ha inside]
      refine ⟨.inr ⟨a, ha, _, ⟨l, inside, d, hd, rfl⟩, rfl⟩, ?_⟩
      rintro l ⟨⟩
      exact mem_bracketed.1 hl
  · rintro ⟨bare | ⟨a, ha, _, ⟨l, hl, d, hd, rfl⟩, rfl⟩, checked⟩
    · exact .inl bare
    · have literal := checked l (literal?_append ha hl)
      exact .inr ⟨a, ha, _, ⟨l, mem_bracketed.2 literal, d, hd, rfl⟩, rfl⟩

/-- The format `uri` is its pattern, where the literal that is captured, if any, is an address or
matches the pattern of future versions. -/
theorem isValid_uri_eq : ∃ p q, Pattern.compile? uriPattern = some p ∧
    Pattern.compile? futurePattern = some q ∧ ∀ s, uri.isValid s = true ↔
      p.isMatch s = true ∧ ∀ l ∈ literal? s.toList,
        isIPv6 l = true ∨ q.isMatch (String.ofList l) = true := by
  obtain ⟨p, compiled, matched⟩ := Pattern.exists_compile_anchored read?_uri rfl
  obtain ⟨q, compiled', same⟩ :=
    Pattern.exists_compile_check read?_future rfl fun _ => mem_futureParts
  refine ⟨p, q, compiled, compiled', fun s => ?_⟩
  rw [matched, lang_uriParts]
  simp only [same, String.toList_ofList]
  exact isUri_iff_enclosed

end JsonSchema.Format
