import Mathlib.Data.List.Basic

/-! The cast of a text to `uuid`: thirty-two hexadecimal digits, with a hyphen after any group of four but the last
and with braces around them or not. -/

namespace Uuid

def isHexDigit (c : Char) : Bool :=
  ('0' ≤ c && c ≤ '9') || ('a' ≤ c && c ≤ 'f') || ('A' ≤ c && c ≤ 'F')

@[grind =] def readGroups : Nat → List Char → Option (List Char)
  | 0, [] => some []
  | 1, [a, b, c, d] => if [a, b, c, d].all isHexDigit then some [a, b, c, d] else none
  | groups + 2, a :: b :: c :: d :: rest =>
    if [a, b, c, d].all isHexDigit then
      match rest with
      | '-' :: rest => (readGroups (groups + 1) rest).map ([a, b, c, d] ++ ·)
      | rest => (readGroups (groups + 1) rest).map ([a, b, c, d] ++ ·)
    else none
  | _, _ => none

/-- The way in which the database writes the digits. -/
def write (digits : List Char) : String :=
  let digits := digits.map Char.toLower
  String.ofList ((digits.take 8) ++ '-' :: (digits.drop 8).take 4 ++ '-' :: (digits.drop 12).take 4 ++
    '-' :: (digits.drop 16).take 4 ++ '-' :: digits.drop 20)

def cast (text : String) : Option String :=
  match text.toList with
  | '{' :: rest => if rest.getLast? = some '}' then (readGroups 8 rest.dropLast).map write else none
  | rest => (readGroups 8 rest).map write

def IsLetter (c : Char) : Prop := isHexDigit c = true ∨ c = '-' ∨ c = '{' ∨ c = '}'

theorem isLetter_of_group {group rest : List Char} (hex : group.all isHexDigit = true)
    (letters : ∀ c ∈ rest, IsLetter c) : ∀ c ∈ group ++ rest, IsLetter c := by
  intro letter member
  rcases List.mem_append.mp member with member | member
  · exact .inl (List.all_eq_true.mp hex letter member)
  · exact letters letter member

theorem isLetter_of_readGroups {groups : Nat} {text digits : List Char} (read : readGroups groups text = some digits) :
    ∀ c ∈ text, IsLetter c := by
  fun_induction readGroups groups text generalizing digits with
  | case1 => simp
  | case2 a b c d hex =>
    exact isLetter_of_group hex fun _ member => absurd member List.not_mem_nil
  | case3 => cases read
  | case4 groups a b c d hex rest ih =>
    obtain ⟨others, readRest, -⟩ := Option.map_eq_some_iff.mp read
    apply isLetter_of_group hex
    rw [List.forall_mem_cons]
    exact ⟨.inr (.inl rfl), ih readRest⟩
  | case5 groups a b c d hex rest _ ih =>
    obtain ⟨others, readRest, -⟩ := Option.map_eq_some_iff.mp read
    exact isLetter_of_group hex (ih readRest)
  | case6 => cases read
  | case7 => cases read

theorem isLetter_of_cast {text value : String} (casts : cast text = some value) :
    ∀ c ∈ text.toList, IsLetter c := by
  unfold cast at casts
  intro letter member
  split at casts
  · next rest opened =>
    split at casts
    · next closed =>
      obtain ⟨digits, read, -⟩ := Option.map_eq_some_iff.mp casts
      rw [opened, ← List.dropLast_append_getLast? '}' closed] at member
      simp only [List.mem_cons, List.mem_append, List.not_mem_nil, or_false] at member
      rcases member with rfl | member | rfl
      · exact .inr (.inr (.inl rfl))
      · exact isLetter_of_readGroups read letter member
      · exact .inr (.inr (.inr rfl))
    · cases casts
  · obtain ⟨digits, read, -⟩ := Option.map_eq_some_iff.mp casts
    exact isLetter_of_readGroups read letter member

theorem not_isLetter_slash : ¬ IsLetter '/' := by
  unfold IsLetter
  decide

end Uuid
