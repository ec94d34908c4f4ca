import ShuleHub.Lib.Base64
import ShuleHub.Lib.JsText
import Mathlib.Data.List.Infix

/-! Texts joined by a character and split at it again, and bytes read back as UTF-8. -/

namespace JsText

def join (separator : Char) (parts : List String) : String :=
  String.ofList ([separator].intercalate (parts.map String.toList))

def split (separator : Char) (text : String) : List String :=
  (text.toList.splitOn separator).map String.ofList

theorem split_join {separator : Char} {parts : List String} (present : parts ≠ [])
    (clean : ∀ part ∈ parts, separator ∉ part.toList) : split separator (join separator parts) = parts := by
  have apart : ([separator].intercalate (parts.map String.toList)).splitOn separator = parts.map String.toList := by
    apply List.splitOn_intercalate
    · intro chars member
      have ⟨part, listed, same⟩ := List.mem_map.mp member
      rw [← same]
      exact clean part listed
    · intro empty
      exact present (List.map_eq_nil_iff.mp empty)
  rw [split, join, String.toList_ofList, apart, List.map_map]
  simp

def ofUtf8 (bytes : List UInt8) : Option (List Char) := bytes.toByteArray.utf8Decode?.map Array.toList

theorem ofUtf8_utf8 (text : List Char) : ofUtf8 (utf8 text) = some text := by
  have decoded := @List.utf8Decode?_utf8Encode text
  rw [List.utf8Encode] at decoded
  rw [ofUtf8, utf8, decoded]
  rfl

theorem utf8_eq_nil_iff {text : List Char} : utf8 text = [] ↔ text = [] := by
  constructor
  · intro empty
    have decoded := ofUtf8_utf8 text
    rw [empty, show ([] : List UInt8) = utf8 [] from rfl, ofUtf8_utf8] at decoded
    exact (Option.some.inj decoded).symm
  · intro empty
    rw [empty]
    rfl

theorem utf8_injective : Function.Injective utf8 := by
  intro first second same
  have decoded := ofUtf8_utf8 first
  rw [same, ofUtf8_utf8] at decoded
  exact (Option.some.inj decoded).symm

end JsText

namespace Base64

variable {separator : Char} {bytes : List UInt8}

theorem digit_ne (apart : value separator = none) {n : Nat} (small : n < 64) :
    separator ≠ digit n := by
  intro same
  have known := value_digit n small
  rw [← same, apart] at known
  cases known

theorem not_mem_encode (apart : value separator = none) (unpadded : separator ≠ '=')
    (bytes : List UInt8) : separator ∉ encode bytes := by
  fun_induction encode bytes with
  | case1 => exact List.not_mem_nil
  | case2 a =>
    have high := digit_ne apart (show a.toNat / 4 < 64 by have := a.toNat_lt; omega)
    have low := digit_ne apart (show a.toNat % 4 * 16 < 64 by omega)
    simp [high, low, unpadded]
  | case3 a b =>
    have first := a.toNat_lt
    have second := b.toNat_lt
    have high := digit_ne apart (show a.toNat / 4 < 64 by omega)
    have middle := digit_ne apart (show a.toNat % 4 * 16 + b.toNat / 16 < 64 by omega)
    have low := digit_ne apart (show b.toNat % 16 * 4 < 64 by omega)
    simp [high, middle, low, unpadded]
  | case4 a b c rest ih =>
    have first := a.toNat_lt
    have second := b.toNat_lt
    have third := c.toNat_lt
    have high := digit_ne apart (show a.toNat / 4 < 64 by omega)
    have middle := digit_ne apart (show a.toNat % 4 * 16 + b.toNat / 16 < 64 by omega)
    have next := digit_ne apart (show b.toNat % 16 * 4 + c.toNat / 64 < 64 by omega)
    have low := digit_ne apart (show c.toNat % 64 < 64 by omega)
    simp [high, middle, next, low, ih]

theorem encode_eq_nil_iff : encode bytes = [] ↔ bytes = [] := by
  constructor
  · intro empty
    rw [← decode_encode bytes, empty]
    rfl
  · intro empty
    rw [empty]
    rfl

def urlChar (c : Char) : Char := if c = '+' then '-' else if c = '/' then '_' else c

def encodeUrl (bytes : List UInt8) : List Char := ((encode bytes).filter (· ≠ '=')).map urlChar

theorem value_urlChar (c : Char) : value (urlChar c) = value c := by
  unfold urlChar
  split_ifs with plus slash
  · rw [plus]
    rfl
  · rw [slash]
    rfl
  · rfl

theorem decode_encodeUrl (bytes : List UInt8) : decode (encodeUrl bytes) = bytes := by
  have values (text : List Char) :
      ((text.filter (· ≠ '=')).map urlChar).filterMap value = text.filterMap value := by
    induction text with
    | nil => rfl
    | cons c text ih =>
      by_cases padding : c = '='
      · rw [padding, List.filter_cons_of_neg (by decide), List.filterMap_cons_none value_padding]
        exact ih
      · rw [List.filter_cons_of_pos (by simpa using padding), List.map_cons, List.filterMap_cons, List.filterMap_cons,
          value_urlChar, ih]
  rw [decode, encodeUrl, values]
  exact decode_encode bytes

theorem not_mem_encodeUrl (apart : value separator = none) (bytes : List UInt8) :
    separator ∉ encodeUrl bytes := by
  intro member
  obtain ⟨c, kept, same⟩ := List.mem_map.mp member
  obtain ⟨encoded, unpadded⟩ := List.mem_filter.mp kept
  rw [← same, value_urlChar] at apart
  exact not_mem_encode apart (by simpa using unpadded) bytes encoded

theorem encodeUrl_ne_nil (present : bytes ≠ []) : encodeUrl bytes ≠ [] := by
  intro empty
  rw [← decode_encodeUrl bytes, empty] at present
  exact present rfl

end Base64

/-! Whether a path includes a route. A route starts with a slash, so the places to look at are those after the
slashes of the path. -/

namespace JsText

@[grind =] def afterSlash : List Char → List (List Char)
  | [] => []
  | c :: rest => if c = '/' then rest :: afterSlash rest else afterSlash rest

theorem includes_iff {text part : String} : includes text part = true ↔ part.toList <:+: text.toList := by
  unfold includes
  simp only [List.any_eq_true, List.mem_tails, List.isPrefixOf_iff_prefix]
  constructor
  · rintro ⟨rest, suffix, found⟩
    exact found.isInfix.trans suffix.isInfix
  · intro found
    obtain ⟨rest, found, suffix⟩ := List.infix_iff_prefix_suffix.mp found
    exact ⟨rest, suffix, found⟩

theorem infix_slash_iff {route path : List Char} :
    '/' :: route <:+: path ↔ ∃ rest ∈ afterSlash path, route <+: rest := by
  induction path with
  | nil => simp [afterSlash]
  | cons c path ih =>
    rw [List.infix_cons_iff, ih, List.cons_prefix_cons, afterSlash]
    split
    · next same => simp [same]
    · next other => simp [Ne.symm other]

theorem afterSlash_of_not_mem {text : List Char} (absent : '/' ∉ text) : afterSlash text = [] := by
  induction text with
  | nil => rfl
  | cons c text ih =>
    rw [List.mem_cons, not_or] at absent
    rw [afterSlash, if_neg (Ne.symm absent.1), ih absent.2]

theorem afterSlash_append (first second : List Char) :
    afterSlash (first ++ second) = (afterSlash first).map (· ++ second) ++ afterSlash second := by
  induction first with
  | nil => rfl
  | cons c first ih =>
    simp only [List.cons_append, afterSlash]
    split
    · rw [ih, List.map_cons, List.cons_append]
    · exact ih

theorem letter_of_word {IsLetter : Char → Prop} {word tail segment rest : List Char} {c : Char}
    (letters : ∀ c ∈ segment, IsLetter c) (found : word ++ c :: tail <+: segment ++ '/' :: rest)
    (unslashed : '/' ∉ c :: word) : IsLetter c := by
  rw [List.mem_cons, not_or] at unslashed
  obtain ⟨other, unslashed⟩ := unslashed
  induction segment generalizing word with
  | nil =>
    cases word with
    | nil =>
      rw [List.nil_append, List.nil_append, List.cons_prefix_cons] at found
      exact absurd found.1.symm other
    | cons d word =>
      rw [List.cons_append, List.nil_append, List.cons_prefix_cons] at found
      exact absurd (found.1 ▸ List.mem_cons_self) unslashed
  | cons first segment ih =>
    cases word with
    | nil =>
      rw [List.nil_append, List.cons_append, List.cons_prefix_cons] at found
      exact found.1 ▸ letters first List.mem_cons_self
    | cons d word =>
      rw [List.cons_append, List.cons_append, List.cons_prefix_cons] at found
      apply ih (fun c member => letters c (List.mem_cons_of_mem _ member)) found.2
      exact fun member => unslashed (List.mem_cons_of_mem _ member)

end JsText
