import ShuleHub.Lib.Calendar
import ShuleHub.Payments.CallbackPayloads

/-! The amounts that M-PESA sends and is sent, as texts, and the minor units that they stand for. -/

namespace ShuleHub.Payments.AmountTexts

open JsText JsDate

/-- The amount is the integer that `BigInt` reads from its text. -/
def convertMinorToStkAmount (amountMinor : Int) : Except Exception String :=
  if amountMinor ≤ 0 then .error (.badRequest "M-PESA payment amounts must be positive")
  else if amountMinor % 100 ≠ 0 then .error (.badRequest "M-PESA STK push only supports whole KES amounts")
  else .ok (toString (amountMinor / 100))

def amountParts (text : List Char) : Option (List Char × List Char) :=
  let (wholePart, rest) := text.span (· ≠ '.')
  let decimalPart := rest.drop 1
  if wholePart ≠ [] ∧ wholePart.all Char.isDigit = true ∧
      (rest = [] ∨ decimalPart ≠ [] ∧ decimalPart.length ≤ 2 ∧ decimalPart.all Char.isDigit = true) then
    some (wholePart, decimalPart)
  else none

@[grind =] def stripZeros : List Char → List Char
  | '0' :: next :: rest => if next.isDigit then stripZeros (next :: rest) else '0' :: next :: rest
  | chars => chars

def convertMajorToMinor (amount : String) : Except Exception String :=
  match amountParts (JsText.trim amount).toList with
  | some (wholePart, decimalPart) =>
    let paddedDecimals := (decimalPart ++ ['0', '0']).take 2
    .ok (String.ofList (stripZeros (wholePart ++ paddedDecimals)))
  | none => .error (.badRequest ("Invalid M-PESA amount \"" ++ amount ++ "\""))

def value (digits : List Char) : Nat := JsText.decimalValue (String.ofList digits)

/-- Digits with at most two more after a point, and the hundredths that they denote. -/
inductive Denotes : List Char → Nat → Prop
  | whole {digits : List Char} (present : digits ≠ []) (numeric : ∀ c ∈ digits, c.isDigit = true) :
    Denotes digits (value digits * 100)
  | fraction {digits decimals : List Char} (present : digits ≠ []) (numeric : ∀ c ∈ digits, c.isDigit = true)
    (some : decimals ≠ []) (few : decimals.length ≤ 2) (decimal : ∀ c ∈ decimals, c.isDigit = true) :
    Denotes (digits ++ '.' :: decimals) (value digits * 100 + value decimals * 10 ^ (2 - decimals.length))

section Digits

variable {digits : List Char}

theorem digitChar_digitValue {c : Char} (digit : c.isDigit = true) : Nat.digitChar (digitValue c) = c := by
  have small := digitValue_le digit
  have lower : 48 ≤ c.toNat := by
    simp only [Char.isDigit, Bool.and_eq_true, decide_eq_true_eq, ge_iff_le, UInt32.le_iff_toNat_le] at digit
    exact digit.1
  apply Char.toNat_inj.mp
  rw [Nat.toNat_digitChar_of_lt_ten (by omega)]
  change 48 + (c.toNat - 48) = c.toNat
  omega

theorem toDigits_append_digits (numeric : ∀ c ∈ digits, c.isDigit = true) {n : Nat} (positive : 0 < n) :
    Nat.toDigits 10 n ++ digits =
      Nat.toDigits 10 (digits.foldl (fun value c => 10 * value + digitValue c) n) := by
  induction digits generalizing n with
  | nil => exact List.append_nil _
  | cons c rest ih =>
    obtain ⟨head, tail⟩ := List.forall_mem_cons.mp numeric
    have small := digitValue_le head
    have next := Nat.toDigits_append_toDigits (b := 10) (by decide) positive (show digitValue c < 10 by omega)
    rw [Nat.toDigits_of_lt_base (show digitValue c < 10 by omega), digitChar_digitValue head] at next
    rw [List.foldl_cons, ← ih tail (by omega), ← next, List.append_assoc]
    rfl

theorem stripZeros_digits (present : digits ≠ []) (numeric : ∀ c ∈ digits, c.isDigit = true) :
    stripZeros digits = Nat.toDigits 10 (value digits) := by
  rw [value, decimalValue, String.toList_ofList]
  fun_induction stripZeros digits with
  | case1 next rest digit ih =>
    exact ih (List.cons_ne_nil next rest) fun c member => numeric c (List.mem_cons_of_mem _ member)
  | case2 next rest other => exact absurd (numeric next (by simp)) other
  | case3 chars other =>
    cases chars with
    | nil => exact absurd rfl present
    | cons first rest =>
      obtain ⟨head, tail⟩ := List.forall_mem_cons.mp numeric
      have small := digitValue_le head
      have single : [first] = Nat.toDigits 10 (digitValue first) := by
        rw [Nat.toDigits_of_lt_base (by omega), digitChar_digitValue head]
      rw [List.foldl_cons, Nat.mul_zero, Nat.zero_add]
      cases rest with
      | nil => exact single
      | cons next rest =>
        have positive : 0 < digitValue first := by
          apply Nat.pos_of_ne_zero
          intro zero
          have same : first = '0' := digitValue_injective head (by decide) zero
          exact other next rest (by rw [same])
        rw [← toDigits_append_digits tail positive, ← single]
        rfl

end Digits

section Amounts

variable {amount : String} {text wholePart decimalPart : List Char} {n : Nat}

theorem isDigit_ne_point {c : Char} (digit : c.isDigit = true) : decide (c ≠ '.') = true := by
  apply decide_eq_true
  rintro rfl
  exact absurd digit (by decide)

theorem amountParts_eq_some : amountParts text = some (wholePart, decimalPart) ↔
    wholePart ≠ [] ∧ (∀ c ∈ wholePart, c.isDigit = true) ∧
      (decimalPart = [] ∧ text = wholePart ∨ decimalPart ≠ [] ∧ decimalPart.length ≤ 2 ∧
        (∀ c ∈ decimalPart, c.isDigit = true) ∧ text = wholePart ++ '.' :: decimalPart) := by
  simp only [amountParts, List.span_eq_takeWhile_dropWhile, List.all_eq_true]
  constructor
  · intro parts
    have join := (List.takeWhile_append_dropWhile (p := (· ≠ '.')) (l := text)).symm
    have point := List.head?_dropWhile_not (· ≠ '.') text
    split at parts
    · next accepted =>
      obtain ⟨rfl, rfl⟩ := Prod.mk.inj (Option.some.inj parts)
      obtain ⟨present, numeric, ending⟩ := accepted
      refine ⟨present, numeric, ?_⟩
      generalize text.dropWhile (· ≠ '.') = rest at join point ending
      cases rest with
      | nil => exact .inl ⟨rfl, join.trans (List.append_nil _)⟩
      | cons c rest =>
        obtain rfl : c = '.' := by simpa using point
        obtain ⟨decimals, few, numeric⟩ := ending.resolve_left (List.cons_ne_nil _ _)
        exact .inr ⟨decimals, few, numeric, join⟩
    · cases parts
  · rintro ⟨present, numeric, ⟨rfl, rfl⟩ | ⟨decimals, few, decimal, rfl⟩⟩
    · have visible (c : Char) (member : c ∈ text) := isDigit_ne_point (numeric c member)
      rw [List.takeWhile_eq_self_iff.mpr visible, List.dropWhile_eq_nil_iff.mpr visible]
      exact if_pos ⟨present, numeric, .inl rfl⟩
    · have visible (c : Char) (member : c ∈ wholePart) := isDigit_ne_point (numeric c member)
      rw [List.takeWhile_append_of_pos visible, List.dropWhile_append_of_pos visible]
      simp [present, decimals, few]
      exact ⟨numeric, decimal⟩

theorem value_padded (few : decimalPart.length ≤ 2) :
    value ((decimalPart ++ ['0', '0']).take 2) = value decimalPart * 10 ^ (2 - decimalPart.length) := by
  match decimalPart, few with
  | [], _ => rfl
  | [tenths], _ => exact decimalValue_append [tenths] ['0']
  | [_, _], _ => exact (Nat.mul_one _).symm

theorem denotes_iff : Denotes text n ↔ ∃ wholePart decimalPart, amountParts text = some (wholePart, decimalPart) ∧
    n = value wholePart * 100 + value ((decimalPart ++ ['0', '0']).take 2) := by
  constructor
  · intro denotes
    cases denotes with
    | whole present numeric => exact ⟨text, [], amountParts_eq_some.mpr ⟨present, numeric, .inl ⟨rfl, rfl⟩⟩, rfl⟩
    | fraction present numeric some few decimal =>
      refine ⟨_, _, amountParts_eq_some.mpr ⟨present, numeric, .inr ⟨some, few, decimal, rfl⟩⟩, ?_⟩
      rw [value_padded few]
  · rintro ⟨wholePart, decimalPart, parts, rfl⟩
    obtain ⟨present, numeric, ⟨rfl, rfl⟩ | ⟨decimals, few, decimal, rfl⟩⟩ := amountParts_eq_some.mp parts
    · exact .whole present numeric
    · rw [value_padded few]
      exact .fraction present numeric decimals few decimal

theorem parseHundredths_eq_some (text : String) : MpesaC2b.parseHundredths text = some n ↔ Denotes text.toList n := by
  rw [denotes_iff]
  simp only [MpesaC2b.parseHundredths, amountParts]
  split <;> simp [value, eq_comm]

theorem convertMajorToMinor_ok {minor : String} :
    convertMajorToMinor amount = .ok minor ↔ ∃ n, Denotes (trim amount).toList n ∧ minor = toString n := by
  simp only [convertMajorToMinor, denotes_iff]
  cases parts : amountParts (trim amount).toList with
  | none => simp
  | some pair =>
    obtain ⟨present, numeric, ending⟩ := amountParts_eq_some.mp parts
    have padded : ∀ c ∈ pair.1 ++ (pair.2 ++ ['0', '0']).take 2, c.isDigit = true := by
      intro c member
      have decimal : ∀ c ∈ pair.2, c.isDigit = true := by grind
      rcases List.mem_append.mp member with inWhole | inDecimals
      · exact numeric c inWhole
      · rcases List.mem_append.mp (List.mem_of_mem_take inDecimals) with own | added
        · exact decimal c own
        · obtain rfl : c = '0' := by simpa using added
          rfl
    have two : ((pair.2 ++ ['0', '0']).take 2).length = 2 := by simp
    have stripped := stripZeros_digits (List.append_ne_nil_of_left_ne_nil present _) padded
    have total := decimalValue_append pair.1 ((pair.2 ++ ['0', '0']).take 2)
    rw [two] at total
    change value _ = value pair.1 * 100 + value _ at total
    simp only [stripped, total, ← Nat.toString_eq_ofList_toDigits, Except.ok.injEq, Option.some.injEq]
    constructor
    · rintro rfl
      exact ⟨_, ⟨pair.1, pair.2, rfl, rfl⟩, rfl⟩
    · rintro ⟨_, ⟨wholePart, decimalPart, rfl, rfl⟩, rfl⟩
      rfl

theorem convertMajorToMinor_text (amount : String) :
    convertMajorToMinor amount = (Payments.convertMajorToMinor amount).map toString := by
  rw [Payments.convertMajorToMinor]
  cases hundredths : MpesaC2b.parseHundredths (trim amount) with
  | some n => exact convertMajorToMinor_ok.mpr ⟨n, (parseHundredths_eq_some _).mp hundredths, rfl⟩
  | none =>
    cases parts : amountParts (trim amount).toList with
    | none =>
      rw [convertMajorToMinor, parts]
      rfl
    | some pair =>
      have read := (parseHundredths_eq_some _).mpr (denotes_iff.mpr ⟨pair.1, pair.2, parts, rfl⟩)
      exact absurd (hundredths.symm.trans read) (by simp)

theorem chars_of_denotes (denotes : Denotes text n) : text ≠ [] ∧ ∀ c ∈ text, c.isDigit = true ∨ c = '.' := by
  cases denotes with
  | whole present numeric => exact ⟨present, fun c member => .inl (numeric c member)⟩
  | fraction present numeric some few decimal =>
    refine ⟨List.append_ne_nil_of_left_ne_nil present _, fun c member => ?_⟩
    grind

theorem parseAmountMinor_of_denotes {parsed : { amountMinor : Nat // 0 < amountMinor }}
    (denotes : Denotes (trim amount).toList n)
    (accepted : MpesaC2b.parseAmountMinor (some (.str amount)) = .ok parsed) : parsed.val = n := by
  obtain ⟨present, chars⟩ := chars_of_denotes denotes
  have written : trim amount ≠ "" := by
    intro blank
    rw [blank] at present
    exact present rfl
  have given : MpesaC2b.requireText (some (.str amount)) "TransAmount" = .ok (trim amount) := by
    have read : readString (some amount) = some (trim amount) := by simp [readString, Option.filter, written]
    simp only [MpesaC2b.requireText, MpesaC2b.optionalText, read]
    rfl
  have plain : (trim amount).toList.filter (· ≠ ',') = (trim amount).toList := by
    apply List.filter_eq_self.mpr
    intro c member
    apply decide_eq_true
    rintro rfl
    rcases chars _ member with digit | point
    · exact absurd digit (by decide)
    · exact absurd point (by decide)
  simp only [MpesaC2b.parseAmountMinor, given, Outcome.bind_ok, Except.ok.injEq, exists_eq_left'] at accepted
  rw [plain, String.ofList_toList, (parseHundredths_eq_some _).mpr denotes] at accepted
  by_cases positive : 0 < n
  · simp only [dif_pos positive] at accepted
    cases accepted
    rfl
  · simp only [dif_neg positive] at accepted
    cases accepted

theorem convertMajorToMinor_stkAmount {m : Int} {stkAmount : String}
    (admitted : convertMinorToStkAmount m = .ok stkAmount) :
    convertMajorToMinor stkAmount = .ok (toString m) := by
  simp only [convertMinorToStkAmount] at admitted
  split at admitted
  · cases admitted
  · split at admitted
    · cases admitted
    · obtain ⟨k, rfl⟩ : ∃ k : Nat, m = (k * 100 : Nat) := ⟨(m / 100).toNat, by omega⟩
      have whole : ((k * 100 : Nat) : Int) / 100 = k := by omega
      rw [whole] at admitted
      obtain rfl : toString k = stkAmount := Except.ok.inj admitted
      refine convertMajorToMinor_ok.mpr ⟨k * 100, ?_, rfl⟩
      have digits : (toString k).toList = Nat.toDigits 10 k := by
        rw [Nat.toString_eq_ofList_toDigits, String.toList_ofList]
      have denotes : Denotes (toString k).toList (value (toString k).toList * 100) := by
        rw [digits]
        exact .whole Nat.toDigits_ne_nil fun c => Nat.isDigit_of_mem_toDigits (by decide) (by decide)
      rwa [value, String.ofList_toList, decimalValue_toString, ← trim_toString k] at denotes

end Amounts

/-- The texts accepted are digits with at most two decimals, and become the numeral of their hundredths, the number that
the other converter reads; an amount that is pushed to a phone comes back as it was. -/
theorem major_amounts_are_canonical :
    (∀ amount minor, convertMajorToMinor amount = .ok minor ↔
      ∃ n, Denotes (JsText.trim amount).toList n ∧ minor = toString n) ∧
    (∀ amount minor parsed, convertMajorToMinor amount = .ok minor →
      MpesaC2b.parseAmountMinor (some (.str amount)) = .ok parsed → minor = toString parsed.val) ∧
    ∀ m stkAmount, convertMinorToStkAmount m = .ok stkAmount → convertMajorToMinor stkAmount = .ok (toString m) := by
  refine ⟨fun amount minor => convertMajorToMinor_ok, ?_, fun m stkAmount => convertMajorToMinor_stkAmount⟩
  intro amount minor parsed converted accepted
  obtain ⟨n, denotes, rfl⟩ := convertMajorToMinor_ok.mp converted
  rw [parseAmountMinor_of_denotes denotes accepted]

end ShuleHub.Payments.AmountTexts
