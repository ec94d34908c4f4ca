import Mathlib.Data.List.Basic

/-! Comma-separated values: records that CRLF ends, of fields that may stand in quotes. A table is read back from the
text it is written as. -/

namespace Csv

def quote : Char := Char.ofNat 0x22

/-- Where a reader is: before a record, before another field, in a field or its quotes, behind a quote in quotes, or
behind the CR that begins the end of a record. -/
inductive Place where
  | fresh
  | next
  | plain
  | quoted
  | closed
  | returned
deriving DecidableEq

@[grind =] def readFrom : Place → List Char → List (List Char) → List Char → Option (List (List (List Char)))
  | .fresh, _, _, [] => some []
  | .quoted, _, _, [] => none
  | .returned, _, _, [] => none
  | _, field, record, [] => some [record ++ [field]]
  | .quoted, field, record, c :: rest =>
    if c = quote then readFrom .closed field record rest else readFrom .quoted (field ++ [c]) record rest
  | .returned, field, record, c :: rest =>
    if c = '\n' then (readFrom .fresh [] [] rest).map ((record ++ [field]) :: ·) else none
  | place, field, record, c :: rest =>
    if c = ',' then readFrom .next [] (record ++ [field]) rest
    else if c = '\r' then readFrom .returned field record rest
    else if c = '\n' then none
    else if c = quote then
      if place = .plain then none
      else readFrom .quoted (if place = .closed then field ++ [quote] else field) record rest
    else if place = .closed then none
    else readFrom .plain (field ++ [c]) record rest

def read (text : List Char) : Option (List (List (List Char))) := readFrom .fresh [] [] text

def isSpecial (c : Char) : Bool := c ∈ [quote, ',', '\r', '\n']

def escape (field : List Char) : List Char :=
  if field.any isSpecial then quote :: field.flatMap (fun c => if c = quote then [c, c] else [c]) ++ [quote] else field

@[grind =] def writeRecord : List (List Char) → List Char
  | [] => []
  | [field] => escape field
  | field :: fields => escape field ++ ',' :: writeRecord fields

def write (records : List (List (List Char))) : List Char :=
  records.flatMap fun record => writeRecord record ++ ['\r', '\n']

def Place.Ends (place : Place) : Prop := place ≠ .quoted ∧ place ≠ .returned

section Reading

variable {place : Place} {field text rest : List Char} {record : List (List Char)}

theorem readFrom_comma (ends : place.Ends) :
    readFrom place field record (',' :: rest) = readFrom .next [] (record ++ [field]) rest := by
  obtain ⟨outside, before⟩ := ends
  cases place <;> simp_all [readFrom]

theorem readFrom_crlf (ends : place.Ends) : readFrom place field record ('\r' :: '\n' :: rest) =
    (readFrom .fresh [] [] rest).map ((record ++ [field]) :: ·) := by
  obtain ⟨outside, before⟩ := ends
  cases place <;> simp_all [readFrom]

theorem readFrom_plain (ordinary : ∀ c ∈ text, isSpecial c = false) :
    readFrom .plain field record (text ++ rest) = readFrom .plain (field ++ text) record rest := by
  induction text generalizing field with
  | nil => rw [List.nil_append, List.append_nil]
  | cons c text ih =>
    obtain ⟨head, tail⟩ := List.forall_mem_cons.mp ordinary
    simp only [isSpecial, List.mem_cons, List.not_mem_nil, or_false, decide_eq_false_iff_not, not_or] at head
    simp [readFrom, head, ih tail]

theorem readFrom_quoted : readFrom .quoted field record
      (text.flatMap (fun c => if c = quote then [c, c] else [c]) ++ quote :: rest) =
    readFrom .closed (field ++ text) record rest := by
  induction text generalizing field with
  | nil => simp [readFrom]
  | cons c text ih =>
    by_cases same : c = quote
    · subst same
      simp [readFrom, ih, show quote ≠ ',' by decide, show quote ≠ '\r' by decide, show quote ≠ '\n' by decide]
    · simp [readFrom, same, ih]

theorem readFrom_escape (begins : place = .fresh ∨ place = .next) (text rest : List Char) :
    ∃ last : Place, last.Ends ∧ readFrom place [] record (escape text ++ rest) = readFrom last text record rest := by
  rw [escape]
  split
  · refine ⟨.closed, ⟨by decide, by decide⟩, ?_⟩
    have opened (later : List Char) :
        readFrom place [] record (quote :: later) = readFrom .quoted [] record later := by
      rcases begins with rfl | rfl <;> rfl
    rw [List.cons_append, List.cons_append, opened, List.append_assoc]
    exact readFrom_quoted
  · next ordinary =>
    rw [List.any_eq_true] at ordinary
    cases text with
    | nil => exact ⟨place, by rcases begins with rfl | rfl <;> exact ⟨by decide, by decide⟩, rfl⟩
    | cons c text =>
      have others : ∀ d ∈ c :: text, isSpecial d = false := by
        intro d member
        exact Bool.eq_false_iff.mpr fun special => ordinary ⟨d, member, special⟩
      have started : readFrom place [] record ((c :: text) ++ rest) = readFrom .plain [] record ((c :: text) ++ rest) := by
        rcases begins with rfl | rfl <;> simp_all [readFrom, isSpecial]
      exact ⟨.plain, ⟨by decide, by decide⟩, started.trans (readFrom_plain others)⟩

theorem readFrom_writeRecord {fields : List (List Char)} (begins : place = .fresh ∨ place = .next)
    (present : fields ≠ []) : readFrom place [] record (writeRecord fields ++ '\r' :: '\n' :: rest) =
      (readFrom .fresh [] [] rest).map ((record ++ fields) :: ·) := by
  induction fields generalizing place record with
  | nil => exact absurd rfl present
  | cons field fields ih =>
    cases fields with
    | nil =>
      obtain ⟨last, ends, read⟩ := @readFrom_escape place record begins field ('\r' :: '\n' :: rest)
      exact read.trans (readFrom_crlf ends)
    | cons other fields =>
      obtain ⟨last, ends, read⟩ := @readFrom_escape place record begins field
        (',' :: (writeRecord (other :: fields) ++ '\r' :: '\n' :: rest))
      have later := @ih .next (record ++ [field]) (.inr rfl) (List.cons_ne_nil other fields)
      rw [List.append_assoc] at later
      rw [writeRecord, List.append_assoc, List.cons_append, read, readFrom_comma ends, later]
      · rfl
      · simp

end Reading

theorem read_write {records : List (List (List Char))} (wide : ∀ record ∈ records, record ≠ []) :
    read (write records) = some records := by
  induction records with
  | nil => rfl
  | cons record records ih =>
    obtain ⟨present, others⟩ := List.forall_mem_cons.mp wide
    rw [read, write, List.flatMap_cons, List.append_assoc]
    exact (readFrom_writeRecord (.inl rfl) present).trans (congrArg (Option.map _) (ih others))

end Csv
