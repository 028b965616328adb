import JsonSchema.Proofs.Format.Host
import JsonSchema.Proofs.Format.Uri
import JsonSchema.Proofs.Pattern.Languages
/-!
# The patterns of names

Host names and email addresses are recognised by patterns with a limit on their size. The checks of
the formats `hostname` and `email` agree with the patterns as they are written
(`isValid_hostname_eq`, `isValid_email_eq`): each pattern is read, and the language of the
expression is compared with the check part by part.
-/

namespace JsonSchema.Format

open Grammar JsonSchema.Text
open Pattern (Regex)
open Pattern.Regex (inOrder anchored)
open Pattern.CharSet (singles classOf mem_classOf mem_classOf_append mem_classOf_singles)
open scoped Computability

variable {c : Char} {cs : List Char}

/-! ### As they are written -/

def labelPattern : String := "[A-Za-z0-9][A-Za-z0-9\\-]\x7b0,62\x7d"

def hostnamePattern : String := "^" ++ labelPattern ++ "(?:\\." ++ labelPattern ++ ")*$"

def wordPattern : String := "[A-Za-z0-9!#$%&'*+\\-/=?^_`\x7b|\x7d~]+"

def emailPattern : String :=
  "^" ++ wordPattern ++ "(?:\\." ++ wordPattern ++ ")*@" ++ labelPattern ++ "(?:\\." ++
    labelPattern ++ ")*$"

/-! ### As they are read -/

def alphanumeric : List (Char × Char) := [('A', 'Z'), ('a', 'z'), ('0', '9')]

def labelParts : List Regex :=
  [.oneOf alphanumeric, .repeated (.oneOf (alphanumeric ++ singles "-")) 0 (some 62)]

def hostParts : List Regex :=
  labelParts ++ [.repeated (inOrder (.char '.' :: labelParts)) 0 none]

def wordPart : Regex :=
  .repeated (.oneOf (alphanumeric ++ singles "!#$%&'*+-/=?^_`\x7b|\x7d~")) 1 none

def localParts : List Regex := [wordPart, .repeated (inOrder [.char '.', wordPart]) 0 none]

theorem read?_hostname : Regex.read? hostnamePattern = some (anchored hostParts) := by
  decide +kernel

theorem read?_email :
    Regex.read? emailPattern = some (anchored (localParts ++ .char '@' :: hostParts)) := by
  decide +kernel

/-! ### What they match -/

theorem mem_alphanumeric : c ∈ classOf alphanumeric ↔ isAlphanumeric c = true := by
  simp [mem_classOf, alphanumeric, isAlphanumeric, Char.isAlphanum, isAlpha_iff_le, isDigit_iff_le,
    or_assoc]

theorem mem_labelParts : cs ∈ (inOrder labelParts).lang ↔ isLabel cs = true := by
  simp only [labelParts, Regex.lang_inOrder_cons, Regex.lang_inOrder_nil, mul_one,
    Regex.lang_oneOf]
  cases cs with
  | nil => simp [isLabel]
  | cons c r =>
    simp [isLabel, isLabelChar, mem_alphanumeric, Regex.mem_upTo, mem_classOf_append,
      mem_classOf_singles, and_assoc]

theorem over_labelParts (h : isLabelChar c = false) : Over (· ≠ c) (inOrder labelParts).lang := by
  rintro l hl x hx rfl
  have among := (isLabel_iff.1 (mem_labelParts.1 hl)).char x hx
  rw [← isLabelChar_iff, h] at among
  cases among

theorem mem_hostParts : cs ∈ (inOrder hostParts).lang ↔ isHost cs = true := by
  have list : (inOrder hostParts).lang = (inOrder labelParts).lang *
      (Grammar.char '.' * (inOrder labelParts).lang)∗ := by
    simp [hostParts]
  rw [list, mem_list_iff (over_labelParts rfl), isHost, List.all_eq_true]
  simp only [mem_labelParts]

theorem mem_wordPart : cs ∈ wordPart.lang ↔ (!cs.isEmpty && cs.all isAtomChar) = true := by
  simp [wordPart, mem_one_plus, mem_classOf_append, mem_classOf_singles, mem_alphanumeric,
    isAtomChar]

theorem over_wordPart (h : isAtomChar c = false) : Over (· ≠ c) wordPart.lang := by
  rintro w hw x hx rfl
  rw [mem_wordPart, Bool.and_eq_true, List.all_eq_true] at hw
  rw [hw.2 x hx] at h
  cases h

theorem localParts_eq : (inOrder localParts).lang =
    wordPart.lang * (Grammar.char '.' * wordPart.lang)∗ := by
  simp [localParts]

theorem mem_localParts : cs ∈ (inOrder localParts).lang ↔ isLocalPart cs = true := by
  rw [localParts_eq, mem_list_iff (over_wordPart (by decide)), isLocalPart, List.all_eq_true]
  simp only [mem_wordPart]

theorem mem_emailParts :
    cs ∈ (inOrder (localParts ++ .char '@' :: hostParts)).lang ↔ isEmail cs = true := by
  have name : Over (· ≠ '@') (inOrder localParts).lang := by
    have word : Over (· ≠ '@') wordPart.lang := over_wordPart (by decide)
    rw [localParts_eq]
    exact over_mul word (over_kstar (over_mul (over_char (by decide)) word))
  rw [Regex.lang_inOrder_append, Regex.lang_inOrder_cons, Regex.lang_char, mem_sep_iff name]
  simp only [mem_localParts, mem_hostParts, isEmail]
  rcases splitFirst_cases '@' cs with ⟨-, hs⟩ | ⟨a, b, -, -, hs⟩
  · simp [hs]
  · simp [hs]

/-- A check with a limit on the size is the pattern that agrees with it, under the same limit. -/
theorem exists_limited {f : Format} {source : String} {parts : List Regex}
    {check : List Char → Bool} (read : Regex.read? source = some (anchored parts))
    (plain : (inOrder parts).isPlain = true)
    (agree : ∀ cs, cs ∈ (inOrder parts).lang ↔ check cs = true)
    (limited : ∀ s, f.isValid s = (decide (s.utf8ByteSize ≤ nameLimit) && check s.toList)) :
    ∃ p, Pattern.compile? source = some p ∧
      ∀ s, f.isValid s = (decide (s.utf8ByteSize ≤ nameLimit) && p.isMatch s) := by
  obtain ⟨p, compiled, same⟩ := Pattern.exists_compile_check read plain agree
  refine ⟨p, compiled, fun s => ?_⟩
  rw [limited, same]

theorem isValid_hostname_eq : ∃ p, Pattern.compile? hostnamePattern = some p ∧
    ∀ s, hostname.isValid s = (decide (s.utf8ByteSize ≤ nameLimit) && p.isMatch s) :=
  exists_limited read?_hostname rfl (fun _ => mem_hostParts) fun _ => rfl

theorem isValid_email_eq : ∃ p, Pattern.compile? emailPattern = some p ∧
    ∀ s, email.isValid s = (decide (s.utf8ByteSize ≤ nameLimit) && p.isMatch s) :=
  exists_limited read?_email rfl (fun _ => mem_emailParts) fun _ => rfl

end JsonSchema.Format
