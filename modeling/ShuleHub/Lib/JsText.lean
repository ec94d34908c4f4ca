import Mathlib.Data.List.Basic
import Mathlib.Data.List.DropRight
import Mathlib.Data.String.Basic

/-! The string operations that request fields are normalised with. -/

namespace JsText

variable (text : String) (c : Char)

def isSpace : Bool :=
  c.toNat ∈ [0x09, 0x0a, 0x0b, 0x0c, 0x0d, 0x20, 0xa0, 0x1680, 0x2028, 0x2029, 0x202f, 0x205f, 0x3000, 0xfeff]
    || (0x2000 ≤ c.toNat && c.toNat ≤ 0x200a)

def trim : String :=
  String.ofList (((text.toList.dropWhile isSpace).reverse.dropWhile isSpace).reverse)

def upperChar : List Char :=
  if c = 'ß' then ['S', 'S']
  else if c = 'ı' then ['I']
  else if c = 'ſ' then ['S']
  else if c = 'ŉ' then ['ʼ', 'N']
  else if c = 'ǰ' then ['J', Char.ofNat 0x030c]
  else if c = 'ẖ' then ['H', Char.ofNat 0x0331]
  else if c = 'ẗ' then ['T', Char.ofNat 0x0308]
  else if c = 'ẘ' then ['W', Char.ofNat 0x030a]
  else if c = 'ẙ' then ['Y', Char.ofNat 0x030a]
  else if c = 'ẚ' then ['A', 'ʾ']
  else if c = 'ﬀ' then ['F', 'F']
  else if c = 'ﬁ' then ['F', 'I']
  else if c = 'ﬂ' then ['F', 'L']
  else if c = 'ﬃ' then ['F', 'F', 'I']
  else if c = 'ﬄ' then ['F', 'F', 'L']
  else if c = 'ﬅ' ∨ c = 'ﬆ' then ['S', 'T']
  else [c.toUpper]

def toUpperCase : String := String.ofList (text.toList.flatMap upperChar)

/-- Outside ASCII only the Kelvin sign and `İ` have an ASCII letter in their lower case. -/
def lowerChar : List Char :=
  if c = Char.ofNat 0x212a then ['k']
  else if c = Char.ofNat 0x0130 then ['i', Char.ofNat 0x0307]
  else [c.toLower]

def toLowerCase : String := String.ofList (text.toList.flatMap lowerChar)

def endsWith (text suffix : String) : Bool := suffix.toList.isSuffixOf text.toList

def includes (text part : String) : Bool := text.toList.tails.any part.toList.isPrefixOf

@[grind =] def replaceRuns (keeps : Char → Bool) (replacement : Char) (inRun : Bool) : List Char → List Char
  | [] => []
  | c :: rest =>
    if keeps c then c :: replaceRuns keeps replacement false rest
    else if inRun then replaceRuns keeps replacement true rest
    else replacement :: replaceRuns keeps replacement true rest

def utf8 (text : List Char) : List UInt8 := text.flatMap String.utf8EncodeChar

def digitValue : Nat := c.toNat - '0'.toNat

def decimalValue : Nat :=
  text.toList.foldl (fun value c => 10 * value + digitValue c) 0

def isDecimal : Bool := text.toList ≠ [] && text.toList.all Char.isDigit

def isPositiveNumeral : Bool := isDecimal text && text.toList.head? ≠ some '0'

variable {text}

theorem not_isSpace_of_isDigit {c : Char} (digit : c.isDigit = true) : isSpace c = false := by
  have range : 48 ≤ c.toNat ∧ c.toNat ≤ 57 := by
    simp only [Char.isDigit, Bool.and_eq_true, decide_eq_true_eq, ge_iff_le, UInt32.le_iff_toNat_le] at digit
    exact digit
  simp [isSpace]
  omega

theorem trim_of_digits (digits : ∀ c ∈ text.toList, c.isDigit = true) : trim text = text := by
  have unchanged (chars : List Char) (digits : ∀ c ∈ chars, c.isDigit = true) : chars.dropWhile isSpace = chars := by
    cases chars with
    | nil => rfl
    | cons c chars =>
      have visible := not_isSpace_of_isDigit (digits c List.mem_cons_self)
      rw [List.dropWhile_cons_of_neg (by simp [visible])]
  rw [trim, unchanged _ digits, unchanged _ (by simpa using digits), List.reverse_reverse, String.ofList_toList]

theorem trim_of_visible {first last : Char} (begins : text.toList.head? = some first)
    (ends : text.toList.getLast? = some last) (firstVisible : isSpace first = false)
    (lastVisible : isSpace last = false) : trim text = text := by
  have unchanged {chars : List Char} {c : Char} (head : chars.head? = some c) (visible : isSpace c = false) :
      chars.dropWhile isSpace = chars := by
    cases chars with
    | nil => rfl
    | cons other chars =>
      obtain rfl : other = c := by simpa using head
      rw [List.dropWhile_cons_of_neg (by simp [visible])]
  rw [trim, unchanged begins firstVisible, unchanged (by rw [List.head?_reverse, ends]) lastVisible,
    List.reverse_reverse, String.ofList_toList]

theorem trim_trim (text : String) : trim (trim text) = trim text := by
  let front := text.toList.dropWhile isSpace
  have clean : (front.rdropWhile isSpace).dropWhile isSpace = front.rdropWhile isSpace := by
    have first : front.dropWhile isSpace = front := List.dropWhile_idempotent isSpace text.toList
    rw [List.dropWhile_eq_self_iff] at first ⊢
    intro long
    have start : front.rdropWhile isSpace <+: front := List.rdropWhile_prefix isSpace front
    rw [start.getElem]
    exact first (long.trans_le start.length_le)
  change String.ofList (((trim text).toList.dropWhile isSpace).rdropWhile isSpace) =
    String.ofList (front.rdropWhile isSpace)
  have chars : (trim text).toList = front.rdropWhile isSpace := String.toList_ofList
  rw [chars, clean, List.rdropWhile_idempotent]

theorem last_of_trimmed (trimmed : trim text = text) (present : text ≠ "") :
    ∃ last, text.toList.getLast? = some last ∧ isSpace last = false := by
  have chars : (text.toList.dropWhile isSpace).rdropWhile isSpace = text.toList := by
    have list := congrArg String.toList trimmed
    rw [trim, String.toList_ofList] at list
    exact list
  have long : (text.toList.dropWhile isSpace).rdropWhile isSpace ≠ [] := by
    rw [chars]
    intro empty
    exact present (String.toList_eq_nil_iff.mp empty)
  have visible := List.rdropWhile_last_not isSpace _ long
  refine ⟨_, ?_, by simpa using visible⟩
  rw [← List.getLast?_eq_some_getLast long, chars]

theorem trim_toString (n : Nat) : trim (toString n) = toString n := by
  refine trim_of_digits fun c member => ?_
  rw [Nat.toString_eq_ofList_toDigits, String.toList_ofList] at member
  exact Nat.isDigit_of_mem_toDigits (by decide) (by decide) member

theorem decimalValue_toString (n : Nat) : decimalValue (toString n) = n := by
  rw [decimalValue, Nat.toString_eq_ofList_toDigits, String.toList_ofList]
  exact Nat.ofDigitChars_ten_toDigits

theorem foldl_digits_ge (digits : List Char) (value : Nat) :
    value ≤ digits.foldl (fun value c => 10 * value + digitValue c) value := by
  induction digits generalizing value with
  | nil => exact le_rfl
  | cons c digits ih =>
    have step := ih (10 * value + digitValue c)
    simp only [List.foldl_cons]
    omega

theorem decimalValue_pos (numeral : isPositiveNumeral text = true) :
    0 < decimalValue text := by
  unfold isPositiveNumeral isDecimal at numeral
  cases chars : text.toList with
  | nil => simp [chars] at numeral
  | cons c digits =>
    simp only [chars, Bool.and_eq_true, List.all_cons, List.head?_cons, decide_eq_true_eq,
      ne_eq, Option.some.injEq] at numeral
    obtain ⟨⟨-, digit, -⟩, nonzero⟩ := numeral
    have range : '0'.toNat ≤ c.toNat := by
      simp only [Char.isDigit, Bool.and_eq_true, decide_eq_true_eq, ge_iff_le, UInt32.le_iff_toNat_le] at digit
      exact digit.1
    have unequal : c.toNat ≠ '0'.toNat := fun same => nonzero (Char.toNat_inj.mp same)
    have rest := foldl_digits_ge digits (10 * 0 + digitValue c)
    simp only [decimalValue, chars, List.foldl_cons, digitValue] at rest ⊢
    omega

end JsText
