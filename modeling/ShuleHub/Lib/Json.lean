import Mathlib.Data.List.Sort
import Mathlib.Data.String.Basic

/-! JSON values, the compact text that sorts the keys of every object, and the fact that this text
determines the value up to the order of its keys. -/

/-- A finite number, kept as its canonical literal. -/
structure JsNumber where
  text : String
  literal : text ≠ "" ∧ ∀ c ∈ text.toList, c.isDigit ∨ c ∈ ['-', '+', '.', 'e']
deriving DecidableEq

/-- A literal without a sign or a fraction; one with a positive exponent always denotes an integer. -/
def JsNumber.isNonNegativeInteger (number : JsNumber) : Bool :=
  '-' ∉ number.text.toList && ('.' ∉ number.text.toList || 'e' ∈ number.text.toList)

def JsNumber.ofNat (n : Nat) : JsNumber where
  text := toString n
  literal := by
    rw [Nat.toString_eq_ofList_toDigits]
    constructor
    · intro empty
      have chars := congrArg String.toList empty
      rw [String.toList_ofList] at chars
      exact Nat.toDigits_ne_nil chars
    · intro c member
      rw [String.toList_ofList] at member
      exact .inl (Nat.isDigit_of_mem_toDigits (by decide) (by decide) member)

inductive Json where
  | null
  | bool (value : Bool)
  | num (value : JsNumber)
  | str (value : String)
  | arr (items : List Json)
  | obj (fields : List (String × Json))

namespace Json

mutual

def decEq : (a b : Json) → Decidable (a = b)
  | .null, .null => isTrue rfl
  | .bool a, .bool b => decidable_of_iff (a = b) (by simp)
  | .num a, .num b => decidable_of_iff (a = b) (by simp)
  | .str a, .str b => decidable_of_iff (a = b) (by simp)
  | .arr a, .arr b => have := decEqItems a b; decidable_of_iff (a = b) (by simp)
  | .obj a, .obj b => have := decEqFields a b; decidable_of_iff (a = b) (by simp)
  | .null, .bool _ | .null, .num _ | .null, .str _ | .null, .arr _ | .null, .obj _
  | .bool _, .null | .bool _, .num _ | .bool _, .str _ | .bool _, .arr _ | .bool _, .obj _
  | .num _, .null | .num _, .bool _ | .num _, .str _ | .num _, .arr _ | .num _, .obj _
  | .str _, .null | .str _, .bool _ | .str _, .num _ | .str _, .arr _ | .str _, .obj _
  | .arr _, .null | .arr _, .bool _ | .arr _, .num _ | .arr _, .str _ | .arr _, .obj _
  | .obj _, .null | .obj _, .bool _ | .obj _, .num _ | .obj _, .str _ | .obj _, .arr _ =>
    isFalse nofun

def decEqItems : (a b : List Json) → Decidable (a = b)
  | [], [] => isTrue rfl
  | x :: xs, y :: ys =>
    have := decEq x y
    have := decEqItems xs ys
    decidable_of_iff (x = y ∧ xs = ys) (by simp)
  | [], _ :: _ | _ :: _, [] => isFalse nofun

def decEqFields : (a b : List (String × Json)) → Decidable (a = b)
  | [], [] => isTrue rfl
  | (k, x) :: xs, (l, y) :: ys =>
    have := decEq x y
    have := decEqFields xs ys
    decidable_of_iff (k = l ∧ x = y ∧ xs = ys) (by simp [and_assoc])
  | [], _ :: _ | _ :: _, [] => isFalse nofun

end

instance : DecidableEq Json := decEq

/-- The UTF-16 code units of a text, which is what the default sort of strings compares. -/
def utf16Units (text : String) : List Nat :=
  text.toList.flatMap fun c =>
    if c.toNat < 0x10000 then [c.toNat]
    else [0xd800 + (c.toNat - 0x10000) / 0x400, 0xdc00 + (c.toNat - 0x10000) % 0x400]

def keyLe {α : Type*} (left right : String × α) : Prop := utf16Units left.1 ≤ utf16Units right.1
deriving Decidable

def sortFields {α : Type*} (fields : List (String × α)) : List (String × α) :=
  fields.insertionSort keyLe

def escape (c : Char) : List Char :=
  if c = Char.ofNat 0x22 then ['\\', c]
  else if c = '\\' then ['\\', '\\']
  else if c = Char.ofNat 0x08 then ['\\', 'b']
  else if c = '\t' then ['\\', 't']
  else if c = '\n' then ['\\', 'n']
  else if c = Char.ofNat 0x0c then ['\\', 'f']
  else if c = '\r' then ['\\', 'r']
  else if c.toNat < 0x20 then
    ['\\', 'u', '0', '0', Nat.digitChar (c.toNat / 16), Nat.digitChar (c.toNat % 16)]
  else [c]

def mark : Char := Char.ofNat 0x22

def quote (text : String) : List Char := mark :: text.toList.flatMap escape ++ [mark]

@[grind =] def commaSeparated : List (List Char) → List Char
  | [] => []
  | [part] => part
  | part :: parts => part ++ ',' :: commaSeparated parts

def member (field : String × List Char) : List Char := quote field.1 ++ ':' :: field.2

mutual

@[grind =] def render : Json → List Char
  | .null => ['n', 'u', 'l', 'l']
  | .bool true => ['t', 'r', 'u', 'e']
  | .bool false => ['f', 'a', 'l', 's', 'e']
  | .num value => value.text.toList
  | .str value => quote value
  | .arr items => '[' :: commaSeparated (renderItems items) ++ [']']
  | .obj fields => Char.ofNat 0x7b :: commaSeparated ((renderFields fields).map member) ++ [Char.ofNat 0x7d]

@[grind =] def renderItems : List Json → List (List Char)
  | [] => []
  | item :: items => render item :: renderItems items

@[grind =] def renderFields : List (String × Json) → List (String × List Char)
  | [] => []
  | (key, value) :: fields => (key, render value) :: renderFields fields

end

mutual

@[grind =] def serialize : Json → List Char
  | .null => ['n', 'u', 'l', 'l']
  | .bool true => ['t', 'r', 'u', 'e']
  | .bool false => ['f', 'a', 'l', 's', 'e']
  | .num value => value.text.toList
  | .str value => quote value
  | .arr items => '[' :: commaSeparated (serializeItems items) ++ [']']
  | .obj fields =>
    Char.ofNat 0x7b :: commaSeparated ((sortFields (serializeFields fields)).map member) ++ [Char.ofNat 0x7d]

@[grind =] def serializeItems : List Json → List (List Char)
  | [] => []
  | item :: items => serialize item :: serializeItems items

@[grind =] def serializeFields : List (String × Json) → List (String × List Char)
  | [] => []
  | (key, value) :: fields => (key, serialize value) :: serializeFields fields

end

mutual

/-- The value with the keys of every object sorted: equal for values that differ in key order only. -/
@[grind =] def canonical : Json → Json
  | .arr items => .arr (canonicalItems items)
  | .obj fields => .obj (sortFields (canonicalFields fields))
  | .null => .null
  | .bool value => .bool value
  | .num value => .num value
  | .str value => .str value

@[grind =] def canonicalItems : List Json → List Json
  | [] => []
  | item :: items => canonical item :: canonicalItems items

@[grind =] def canonicalFields : List (String × Json) → List (String × Json)
  | [] => []
  | (key, value) :: fields => (key, canonical value) :: canonicalFields fields

end

theorem sortFields_map {α β : Type*} (f : α → β) (fields : List (String × α)) :
    sortFields (fields.map (Prod.map id f)) = (sortFields fields).map (Prod.map id f) :=
  (List.map_insertionSort keyLe keyLe (Prod.map id f) fields (fun _ _ _ _ => Iff.rfl)).symm

theorem renderFields_eq_map (fields : List (String × Json)) :
    renderFields fields = fields.map (Prod.map id render) := by
  induction fields with
  | nil => rfl
  | cons field fields ih => simp [renderFields, ih, Prod.map]

mutual

theorem serialize_eq_render : (value : Json) → serialize value = render (canonical value)
  | .null | .bool true | .bool false | .num _ | .str _ => rfl
  | .arr items => by simp only [serialize, canonical, render, serializeItems_eq_render items]
  | .obj fields => by
    simp only [serialize, canonical, render, renderFields_eq_map, ← sortFields_map]
    rw [serializeFields_eq_render fields, renderFields_eq_map]

theorem serializeItems_eq_render : (items : List Json) →
    serializeItems items = renderItems (canonicalItems items)
  | [] => rfl
  | item :: items => by
    simp only [serializeItems, canonicalItems, renderItems, serialize_eq_render item,
      serializeItems_eq_render items]

theorem serializeFields_eq_render : (fields : List (String × Json)) →
    serializeFields fields = renderFields (canonicalFields fields)
  | [] => rfl
  | (key, value) :: fields => by
    simp only [serializeFields, canonicalFields, renderFields, serialize_eq_render value,
      serializeFields_eq_render fields]

end

private def NumberChar (c : Char) : Prop := c.isDigit ∨ c ∈ ['-', '+', '.', 'e']

private def Delimited (rest : List Char) : Prop := ∀ c ∈ rest.head?, ¬ NumberChar c

private def unescapeTail : List Char → Option (Char × List Char)
  | [] => none
  | c :: rest =>
    if c = mark then some (mark, rest)
    else if c = '\\' then some ('\\', rest)
    else if c = 'b' then some (Char.ofNat 0x08, rest)
    else if c = 't' then some ('\t', rest)
    else if c = 'n' then some ('\n', rest)
    else if c = 'f' then some (Char.ofNat 0x0c, rest)
    else if c = 'r' then some ('\r', rest)
    else match rest with
      | _ :: _ :: high :: low :: rest =>
        ((List.range 0x20).find? fun n => Nat.digitChar (n / 16) = high ∧ Nat.digitChar (n % 16) = low).map
          fun n => (Char.ofNat n, rest)
      | _ => none

private def unescape : List Char → Option (Char × List Char)
  | [] => none
  | c :: rest =>
    if c = '\\' then unescapeTail rest else if c = mark then none else some (c, rest)

private theorem control_find : ∀ n < 0x20, (List.range 0x20).find? (fun m =>
    Nat.digitChar (m / 16) = Nat.digitChar (n / 16) ∧
      Nat.digitChar (m % 16) = Nat.digitChar (n % 16)) = some n := by
  decide

private theorem unescape_escape (c : Char) (rest : List Char) :
    unescape (escape c ++ rest) = some (c, rest) := by
  unfold escape
  split
  · next same => subst same; simp [unescape, unescapeTail, mark]
  split
  · next same => subst same; simp [unescape, unescapeTail, mark]
  split
  · next same => subst same; simp [unescape, unescapeTail, mark]
  split
  · next same => subst same; simp [unescape, unescapeTail, mark]
  split
  · next same => subst same; simp [unescape, unescapeTail, mark]
  split
  · next same => subst same; simp [unescape, unescapeTail, mark]
  split
  · next same => subst same; simp [unescape, unescapeTail, mark]
  split
  · next control =>
    have found := control_find c.toNat control
    simp only [List.cons_append, List.nil_append, unescape, unescapeTail, mark, found]
    simp [Char.ofNat_toNat]
  · next notMark notSlash _ _ _ _ _ _ =>
    simp [unescape, mark, notMark, notSlash]

private theorem escaped_split (xs ys : List Char) {r s : List Char}
    (same : xs.flatMap escape ++ mark :: r = ys.flatMap escape ++ mark :: s) : xs = ys ∧ r = s := by
  have stop (rest : List Char) : unescape (mark :: rest) = none := by simp [unescape, mark]
  induction xs generalizing ys with
  | nil =>
    cases ys with
    | nil => simpa using same
    | cons y ys =>
      have decoded := congrArg unescape same
      simp [stop, unescape_escape] at decoded
  | cons x xs ih =>
    have decoded := congrArg unescape same
    cases ys with
    | nil => simp [stop, unescape_escape] at decoded
    | cons y ys =>
      simp only [List.flatMap_cons, List.append_assoc, unescape_escape, Option.some.injEq,
        Prod.mk.injEq] at decoded
      obtain ⟨tail, rest⟩ := ih ys decoded.2
      exact ⟨by rw [decoded.1, tail], rest⟩

private theorem quote_split {a b : String} {r s : List Char}
    (same : quote a ++ r = quote b ++ s) : a = b ∧ r = s := by
  have body : a.toList.flatMap escape ++ mark :: r = b.toList.flatMap escape ++ mark :: s := by
    simpa [quote] using same
  obtain ⟨text, rest⟩ := escaped_split _ _ body
  exact ⟨String.toList_injective text, rest⟩

private def opens (c : Char) : Nat :=
  if c = 'n' then 0 else if c = 't' then 1 else if c = 'f' then 2 else if c = mark then 3
  else if c = '[' then 4 else if c = Char.ofNat 0x7b then 5
  else if c = ']' ∨ c = Char.ofNat 0x7d then 6 else 8

private def shape : Json → Nat
  | .null => 0
  | .bool true => 1
  | .bool false => 2
  | .str _ => 3
  | .arr _ => 4
  | .obj _ => 5
  | .num _ => 8

private theorem number_ne {c : Char} (number : NumberChar c) :
    c ≠ 'n' ∧ c ≠ 't' ∧ c ≠ 'f' ∧ c ≠ mark ∧ c ≠ '[' ∧ c ≠ Char.ofNat 0x7b ∧ c ≠ ']' ∧
      c ≠ Char.ofNat 0x7d := by
  refine ⟨?_, ?_, ?_, ?_, ?_, ?_, ?_, ?_⟩ <;>
    (rintro rfl; revert number; unfold NumberChar; decide)

private theorem opens_number {c : Char} (number : NumberChar c) : opens c = 8 := by
  simp [opens, number_ne number]

private theorem render_head (value : Json) :
    ∃ c rest, render value = c :: rest ∧ opens c = shape value := by
  rcases value with _ | (_ | _) | number | _ | _ | _
  case num =>
    obtain ⟨present, allowed⟩ := number.literal
    cases text : number.text.toList with
    | nil => exact absurd (String.toList_eq_nil_iff.mp text) present
    | cons c rest =>
      have first : NumberChar c := allowed c (by simp [text])
      exact ⟨c, rest, text, opens_number first⟩
  all_goals exact ⟨_, _, rfl, rfl⟩

private theorem shape_eq {a b : Json} {r s : List Char} (same : render a ++ r = render b ++ s) :
    shape a = shape b := by
  obtain ⟨c, _, left, leftShape⟩ := render_head a
  obtain ⟨d, _, right, rightShape⟩ := render_head b
  rw [left, right, List.cons_append, List.cons_append, List.cons.injEq] at same
  rw [← leftShape, ← rightShape, same.1]

private theorem number_split (xs ys : List Char) {r s : List Char}
    (leftChars : ∀ c ∈ xs, NumberChar c) (rightChars : ∀ c ∈ ys, NumberChar c)
    (leftEnds : Delimited r) (rightEnds : Delimited s) (same : xs ++ r = ys ++ s) :
    xs = ys ∧ r = s := by
  induction xs generalizing ys with
  | nil =>
    cases ys with
    | nil => exact ⟨rfl, same⟩
    | cons y ys => exact absurd (rightChars y (by simp)) (leftEnds y (by simp_all))
  | cons x xs ih =>
    cases ys with
    | nil =>
      have begins : s = x :: (xs ++ r) := by simpa using same.symm
      exact absurd (leftChars x (by simp)) (rightEnds x (by simp [begins]))
    | cons y ys =>
      simp only [List.cons_append, List.cons.injEq] at same
      obtain ⟨tail, rest⟩ := ih ys (fun c mem => leftChars c (by simp [mem]))
        (fun c mem => rightChars c (by simp [mem])) same.2
      exact ⟨by rw [same.1, tail], rest⟩

private theorem delimited_cons {c : Char} (other : ¬ NumberChar c) (rest : List Char) :
    Delimited (c :: rest) := by
  simpa [Delimited] using other

private theorem comma_delimits (rest : List Char) : Delimited (',' :: rest) :=
  delimited_cons (by unfold NumberChar; decide) rest

private theorem render_ne_close (value : Json) {close : Char} (closes : opens close = 6) (r s : List Char) :
    render value ++ r ≠ close :: s := by
  intro same
  obtain ⟨c, rest, left, leftShape⟩ := render_head value
  rw [left, List.cons_append, List.cons.injEq] at same
  rw [same.1, closes] at leftShape
  rcases value with _ | (_ | _) | _ | _ | _ | _ <;> simp [shape] at leftShape

private theorem parts_split {α : Type} (text : α → List Char) (close : Char)
    (notNumber : ¬ NumberChar close) (notComma : close ≠ ',')
    (begins : ∀ x r s, text x ++ r ≠ close :: s) (xs ys : List α) {r s : List Char}
    (part : ∀ x ∈ xs, ∀ y r s, Delimited r → Delimited s → text x ++ r = text y ++ s → x = y ∧ r = s)
    (same : commaSeparated (xs.map text) ++ close :: r = commaSeparated (ys.map text) ++ close :: s) :
    xs = ys ∧ r = s := by
  have ends (rest : List Char) : Delimited (close :: rest) := delimited_cons notNumber rest
  have first (x : α) (xs : List α) (r : List Char) :
      ∃ rest, commaSeparated ((x :: xs).map text) ++ close :: r = text x ++ rest ∧ Delimited rest ∧
        (rest = close :: r ∧ xs = [] ∨ xs ≠ [] ∧ rest = ',' :: (commaSeparated (xs.map text) ++ close :: r)) := by
    cases xs with
    | nil => exact ⟨close :: r, by simp [commaSeparated], ends r, .inl ⟨rfl, rfl⟩⟩
    | cons x' xs =>
      exact ⟨',' :: (commaSeparated ((x' :: xs).map text) ++ close :: r), by simp [commaSeparated],
        comma_delimits _, .inr ⟨by simp, rfl⟩⟩
  induction xs generalizing ys with
  | nil =>
    cases ys with
    | nil => exact ⟨rfl, by simpa [commaSeparated] using same⟩
    | cons y ys =>
      obtain ⟨rest, shown, -, -⟩ := first y ys s
      rw [shown] at same
      exact absurd same.symm (begins y _ _)
  | cons x xs ih =>
    obtain ⟨left, leftText, leftEnds, leftTail⟩ := first x xs r
    rw [leftText] at same
    cases ys with
    | nil => exact absurd same (begins x _ _)
    | cons y ys =>
      obtain ⟨right, rightText, rightEnds, rightTail⟩ := first y ys s
      rw [rightText] at same
      obtain ⟨head, tails⟩ := part x (by simp) y left right leftEnds rightEnds same
      rcases leftTail with ⟨leftTail, leftNil⟩ | ⟨-, leftTail⟩ <;>
        rcases rightTail with ⟨rightTail, rightNil⟩ | ⟨-, rightTail⟩ <;>
        rw [leftTail, rightTail, List.cons.injEq] at tails
      · exact ⟨by rw [head, leftNil, rightNil], tails.2⟩
      · exact absurd tails.1 notComma
      · exact absurd tails.1.symm notComma
      · obtain ⟨tail, rest⟩ := ih ys (fun z mem => part z (by simp [mem])) tails.2
        exact ⟨by rw [head, tail], rest⟩

theorem renderItems_eq_map (items : List Json) : renderItems items = items.map render := by
  induction items with
  | nil => rfl
  | cons item items ih => simp [renderItems, ih]

private theorem value_split (a b : Json) {r s : List Char} (leftEnds : Delimited r) (rightEnds : Delimited s)
    (same : render a ++ r = render b ++ s) : a = b ∧ r = s := by
  have shapes := shape_eq same
  match a with
  | .null =>
    rcases b with _ | (_ | _) | _ | _ | _ | _ <;> simp [shape] at shapes
    exact ⟨rfl, List.append_cancel_left same⟩
  | .bool true =>
    rcases b with _ | (_ | _) | _ | _ | _ | _ <;> simp [shape] at shapes
    exact ⟨rfl, List.append_cancel_left same⟩
  | .bool false =>
    rcases b with _ | (_ | _) | _ | _ | _ | _ <;> simp [shape] at shapes
    exact ⟨rfl, List.append_cancel_left same⟩
  | .num left =>
    rcases b with _ | (_ | _) | right | _ | _ | _ <;> simp [shape] at shapes
    obtain ⟨text, rest⟩ := number_split _ _ left.literal.2 right.literal.2 leftEnds rightEnds same
    have number : left = right := by
      cases left; cases right
      simpa using String.toList_injective text
    exact ⟨by rw [number], rest⟩
  | .str left =>
    rcases b with _ | (_ | _) | _ | right | _ | _ <;> simp [shape] at shapes
    obtain ⟨text, rest⟩ := quote_split same
    exact ⟨by rw [text], rest⟩
  | .arr left =>
    rcases b with _ | (_ | _) | _ | _ | right | _ <;> simp [shape] at shapes
    obtain ⟨items, rest⟩ := parts_split render ']' (by unfold NumberChar; decide) (by decide)
      (fun x => render_ne_close x rfl) left right
      (fun x mem y r s => value_split x y) (by simpa [render, renderItems_eq_map] using same)
    exact ⟨by rw [items], rest⟩
  | .obj left =>
    rcases b with _ | (_ | _) | _ | _ | _ | right <;> simp [shape] at shapes
    have field (x : String × Json) (mem : x ∈ left) (y : String × Json) (r s : List Char)
        (leftEnds : Delimited r) (rightEnds : Delimited s)
        (same : (member ∘ Prod.map id render) x ++ r = (member ∘ Prod.map id render) y ++ s) :
        x = y ∧ r = s := by
      have split : quote x.1 ++ (':' :: (render x.2 ++ r)) = quote y.1 ++ (':' :: (render y.2 ++ s)) := by
        simpa [member] using same
      obtain ⟨key, values⟩ := quote_split split
      obtain ⟨value, rest⟩ := value_split x.2 y.2 leftEnds rightEnds (List.cons.inj values).2
      exact ⟨Prod.ext key value, rest⟩
    obtain ⟨fields, rest⟩ := parts_split (member ∘ Prod.map id render) (Char.ofNat 0x7d)
      (by unfold NumberChar; decide) (by decide) (by simp [member, quote, mark]) left right field
      (by simpa [render, renderFields_eq_map] using same)
    exact ⟨by rw [fields], rest⟩
termination_by sizeOf a
decreasing_by
  all_goals simp_wf
  · have := List.sizeOf_lt_of_mem mem
    omega
  · have := List.sizeOf_lt_of_mem mem
    have : sizeOf x.2 < sizeOf x := by cases x; simp
    omega

theorem render_injective {a b : Json} (same : render a = render b) : a = b := by
  have empty : Delimited [] := by simp [Delimited]
  exact (value_split a b empty empty (r := []) (s := []) (by simpa using same)).1

theorem serialize_eq_iff (a b : Json) : serialize a = serialize b ↔ canonical a = canonical b := by
  rw [serialize_eq_render, serialize_eq_render]
  exact ⟨render_injective, fun same => by rw [same]⟩

theorem canonicalItems_eq_map (items : List Json) : canonicalItems items = items.map canonical := by
  induction items with
  | nil => rfl
  | cons item items ih => simp [canonicalItems, ih]

theorem fields_eq_of_perm {α : Type*} {left right : List (String × α)} (perm : left.Perm right)
    (keys : left.map Prod.fst = right.map Prod.fst) (distinct : (left.map Prod.fst).Nodup) : left = right := by
  induction left generalizing right with
  | nil => exact perm.nil_eq
  | cons head left ih =>
    cases right with
    | nil => cases keys
    | cons other right =>
      simp only [List.map_cons, List.cons.injEq] at keys
      obtain ⟨fresh, distinct⟩ := List.nodup_cons.mp distinct
      have same : head = other := by
        rcases List.mem_cons.mp (perm.subset List.mem_cons_self) with found | later
        · exact found
        · refine absurd ?_ fresh
          rw [keys.2]
          exact List.mem_map_of_mem later
      subst same
      rw [ih perm.cons_inv keys.2 distinct]

theorem sortFields_inj {α : Type*} {left right : List (String × α)}
    (keys : left.map Prod.fst = right.map Prod.fst) (distinct : (left.map Prod.fst).Nodup) :
    sortFields left = sortFields right ↔ left = right := by
  constructor
  · intro same
    have rightPerm := List.perm_insertionSort keyLe right
    rw [← sortFields, ← same] at rightPerm
    exact fields_eq_of_perm ((List.perm_insertionSort keyLe left).symm.trans rightPerm) keys distinct
  · rintro rfl
    rfl

@[grind =] def DistinctKeys : Json → Prop
  | .arr items => ItemsDistinct items
  | .obj fields => (fields.map Prod.fst).Nodup ∧ FieldsDistinct fields
  | _ => True
where
  ItemsDistinct : List Json → Prop
    | [] => True
    | item :: items => DistinctKeys item ∧ ItemsDistinct items
  FieldsDistinct : List (String × Json) → Prop
    | [] => True
    | (_, value) :: fields => DistinctKeys value ∧ FieldsDistinct fields

/-- The least congruence under which objects do not depend on the order of their keys. -/
inductive Reordered : Json → Json → Prop
  | refl (value : Json) : Reordered value value
  | symm {first second : Json} : Reordered first second → Reordered second first
  | trans {first second third : Json} : Reordered first second → Reordered second third → Reordered first third
  | perm {fields others : List (String × Json)} (distinct : (fields.map Prod.fst).Nodup) (perm : fields.Perm others) :
    Reordered (.obj fields) (.obj others)
  | item {first second : Json} (before after : List Json) :
    Reordered first second → Reordered (.arr (before ++ first :: after)) (.arr (before ++ second :: after))
  | field {first second : Json} (key : String) (before after : List (String × Json)) : Reordered first second →
    Reordered (.obj (before ++ (key, first) :: after)) (.obj (before ++ (key, second) :: after))

theorem utf16Units_injective {left right : String} (same : utf16Units left = utf16Units right) : left = right := by
  have first {c d : Char} {r s : List Nat}
      (same : (if c.toNat < 0x10000 then [c.toNat]
          else [0xd800 + (c.toNat - 0x10000) / 0x400, 0xdc00 + (c.toNat - 0x10000) % 0x400]) ++ r =
        (if d.toNat < 0x10000 then [d.toNat]
          else [0xd800 + (d.toNat - 0x10000) / 0x400, 0xdc00 + (d.toNat - 0x10000) % 0x400]) ++ s) : c = d ∧ r = s := by
    have leftValid : c.toNat < 0xd800 ∨ 0xdfff < c.toNat ∧ c.toNat < 0x110000 := c.valid
    have rightValid : d.toNat < 0xd800 ∨ 0xdfff < d.toNat ∧ d.toNat < 0x110000 := d.valid
    have chars (numbers : c.toNat = d.toNat) : c = d := Char.toNat_inj.mp numbers
    split_ifs at same <;> simp only [List.cons_append, List.nil_append, List.cons.injEq] at same
    · exact ⟨chars same.1, same.2⟩
    · omega
    · omega
    · exact ⟨chars (by omega), same.2.2⟩
  apply String.toList_injective
  unfold utf16Units at same
  generalize left.toList = xs, right.toList = ys at same
  induction xs generalizing ys with
  | nil =>
    cases ys with
    | nil => rfl
    | cons d ys =>
      rw [List.flatMap_cons] at same
      split_ifs at same <;> cases same
  | cons c xs ih =>
    cases ys with
    | nil =>
      rw [List.flatMap_cons] at same
      split_ifs at same <;> cases same
    | cons d ys =>
      rw [List.flatMap_cons, List.flatMap_cons] at same
      obtain ⟨head, rest⟩ := first same
      rw [head, ih ys rest]

theorem keyLe_total {α : Type*} : Std.Total (@keyLe α) := ⟨fun _ _ => le_total _ _⟩

theorem keyLe_trans {α : Type*} : IsTrans (String × α) keyLe := ⟨fun _ _ _ => le_trans⟩

theorem canonicalFields_eq_map (fields : List (String × Json)) :
    canonicalFields fields = fields.map (Prod.map id canonical) := by
  induction fields with
  | nil => rfl
  | cons field fields ih => simp [canonicalFields, ih, Prod.map]

theorem sortFields_perm {α : Type*} {fields others : List (String × α)} (distinct : (fields.map Prod.fst).Nodup)
    (perm : fields.Perm others) : sortFields fields = sortFields others := by
  have total := @keyLe_total α
  have trans := @keyLe_trans α
  have left := List.perm_insertionSort keyLe fields
  have right := List.perm_insertionSort keyLe others
  refine List.Perm.eq_of_pairwise ?_ (List.pairwise_insertionSort keyLe fields) (List.pairwise_insertionSort keyLe others)
    (left.trans (perm.trans right.symm))
  intro field other member listed below above
  have keys : field.1 = other.1 := utf16Units_injective (le_antisymm below above)
  exact List.inj_on_of_nodup_map distinct (left.subset member) (perm.symm.subset (right.subset listed)) keys

theorem canonical_of_reordered {first second : Json} (reordered : Reordered first second) :
    canonical first = canonical second := by
  induction reordered with
  | refl => rfl
  | symm _ ih => exact ih.symm
  | trans _ _ head tail => exact head.trans tail
  | perm distinct perm =>
    simp only [canonical, canonicalFields_eq_map]
    rw [sortFields_perm _ (perm.map _)]
    rwa [List.map_map]
  | item before after _ ih => simp only [canonical, canonicalItems_eq_map, List.map_append, List.map_cons, ih]
  | field key before after _ ih =>
    simp only [canonical, canonicalFields_eq_map, List.map_append, List.map_cons, Prod.map, ih]

mutual

theorem reordered_canonical : (value : Json) → DistinctKeys value → Reordered value (canonical value)
  | .null, _ | .bool _, _ | .num _, _ | .str _, _ => .refl _
  | .arr items, distinct => by
    rw [canonical]
    exact reordered_items [] items distinct
  | .obj fields, ⟨keys, distinct⟩ => by
    rw [canonical]
    refine (reordered_fields [] fields distinct).trans (.perm ?_ (List.perm_insertionSort keyLe _).symm)
    rwa [canonicalFields_eq_map, List.nil_append, List.map_map]

theorem reordered_items (done : List Json) : (items : List Json) → DistinctKeys.ItemsDistinct items →
    Reordered (.arr (done ++ items)) (.arr (done ++ canonicalItems items))
  | [], _ => .refl _
  | item :: items, ⟨head, rest⟩ => by
    have later := reordered_items (done ++ [canonical item]) items rest
    rw [List.append_assoc, List.append_assoc] at later
    exact (Reordered.item done items (reordered_canonical item head)).trans later

theorem reordered_fields (done : List (String × Json)) : (fields : List (String × Json)) →
    DistinctKeys.FieldsDistinct fields → Reordered (.obj (done ++ fields)) (.obj (done ++ canonicalFields fields))
  | [], _ => .refl _
  | (key, value) :: fields, ⟨head, rest⟩ => by
    have later := reordered_fields (done ++ [(key, canonical value)]) fields rest
    rw [List.append_assoc, List.append_assoc] at later
    exact (Reordered.field key done fields (reordered_canonical value head)).trans later

end

theorem canonical_eq_iff {first second : Json} (distinct : DistinctKeys first) (other : DistinctKeys second) :
    canonical first = canonical second ↔ Reordered first second := by
  constructor
  · intro same
    have left := reordered_canonical first distinct
    rw [same] at left
    exact left.trans (reordered_canonical second other).symm
  · exact canonical_of_reordered

end Json
