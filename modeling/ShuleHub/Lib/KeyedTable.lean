import ShuleHub.Lib.Table

/-! Tables whose rows have distinct keys: every value is a table that its primary key allows. -/

structure KeyedTable (Row Key : Type) (key : Row → Key) where
  rows : List Row
  distinct : (rows.map key).Nodup
deriving DecidableEq

namespace KeyedTable

open Table

variable {Row Key : Type} {key : Row → Key}

def empty : KeyedTable Row Key key := ⟨[], List.nodup_nil⟩

def find [DecidableEq Key] (table : KeyedTable Row Key key) (wanted : Key) : Option Row :=
  table.rows.find? fun row => key row = wanted

def insert (table : KeyedTable Row Key key) (row : Row) (fresh : ∀ other ∈ table.rows, key other ≠ key row) :
    KeyedTable Row Key key where
  rows := table.rows ++ [row]
  distinct := by
    rw [List.map_append]
    refine List.nodup_append.mpr ⟨table.distinct, List.nodup_singleton _, ?_⟩
    rintro used old new last rfl
    obtain ⟨other, member, rfl⟩ := List.mem_map.mp old
    exact fresh other member (List.mem_singleton.mp last)

def tryInsert [DecidableEq Key] (table : KeyedTable Row Key key) (row : Row) : Option (KeyedTable Row Key key) :=
  if fresh : ∀ other ∈ table.rows, key other ≠ key row then some (table.insert row fresh) else none

def modify (table : KeyedTable Row Key key) (change : Row → Row) (kept : ∀ row, key (change row) = key row) :
    KeyedTable Row Key key where
  rows := table.rows.map change
  distinct := by
    have keys : key ∘ change = key := funext kept
    rw [List.map_map, keys]
    exact table.distinct

def update [DecidableEq Key] (table : KeyedTable Row Key key) (wanted : Key) (change : Row → Row)
    (kept : ∀ row, key (change row) = key row) : KeyedTable Row Key key :=
  table.modify (fun row => if key row = wanted then change row else row) fun row => by
    split
    · exact kept row
    · rfl

def put [DecidableEq Key] (table : KeyedTable Row Key key) (row : Row) : KeyedTable Row Key key :=
  if fresh : ∀ other ∈ table.rows, key other ≠ key row then table.insert row fresh
  else table.modify (fun other => if key other = key row then row else other) fun other => by
    split
    · next same => exact same.symm
    · rfl

def tryModify [DecidableEq Key] (table : KeyedTable Row Key key) (change : Row → Row) :
    Option (KeyedTable Row Key key) :=
  if distinct : ((table.rows.map change).map key).Nodup then some ⟨table.rows.map change, distinct⟩ else none

def delete [DecidableEq Key] (table : KeyedTable Row Key key) (unwanted : Key) : KeyedTable Row Key key where
  rows := table.rows.filter fun row => key row ≠ unwanted
  distinct := table.distinct.sublist (List.filter_sublist.map key)

section Find

variable [DecidableEq Key] (table : KeyedTable Row Key key)
  {wanted other : Key} {row : Row} {change : Row → Row} {after : KeyedTable Row Key key}
  {kept : ∀ row, key (change row) = key row} {fresh : ∀ other ∈ table.rows, key other ≠ key row}

theorem find_eq_some :
    table.find wanted = some row ↔ row ∈ table.rows ∧ key row = wanted := by
  constructor
  · intro found
    exact ⟨List.mem_of_find?_eq_some found, by simpa using List.find?_some found⟩
  · rintro ⟨member, rfl⟩
    cases found : table.find (key row) with
    | none =>
      have absent := List.find?_eq_none.mp found row member
      simp at absent
    | some other =>
      have same : key other = key row := by simpa using List.find?_some found
      rw [List.inj_on_of_nodup_map table.distinct (List.mem_of_find?_eq_some found) member same]

theorem find_eq_none : table.find wanted = none ↔ ∀ row ∈ table.rows, key row ≠ wanted := by
  simp [find]

theorem find_self (member : row ∈ table.rows) : table.find (key row) = some row :=
  (find_eq_some table).mpr ⟨member, rfl⟩

theorem find_modify (wanted : Key) :
    (table.modify change kept).find wanted = (table.find wanted).map change := by
  simp only [find, modify]
  induction table.rows with
  | nil => rfl
  | cons row rows ih =>
    rw [List.map_cons, List.find?_cons, List.find?_cons, kept, ih]
    split <;> rfl

theorem find_update :
    (table.update wanted change kept).find wanted = (table.find wanted).map change := by
  rw [update, find_modify]
  cases found : table.find wanted with
  | none => rfl
  | some row =>
    have same := ((find_eq_some table).mp found).2
    simp [same]

theorem find_update_other
    (differs : other ≠ wanted) : (table.update wanted change kept).find other = table.find other := by
  rw [update, find_modify]
  cases found : table.find other with
  | none => rfl
  | some row =>
    have same := ((find_eq_some table).mp found).2
    simp [same, differs]

theorem tryInsert_eq_some :
    table.tryInsert row = some after ↔
      ∃ fresh : ∀ other ∈ table.rows, key other ≠ key row, table.insert row fresh = after := by
  unfold tryInsert
  split
  · next fresh =>
    constructor
    · intro inserted
      exact ⟨fresh, Option.some.inj inserted⟩
    · rintro ⟨_, rfl⟩
      rfl
  · next taken => simp [taken]

theorem tryModify_eq_some :
    table.tryModify change = some after ↔ table.rows.map change = after.rows := by
  unfold tryModify
  constructor
  · intro changed
    split at changed
    · cases changed
      rfl
    · cases changed
  · intro same
    have distinct : ((table.rows.map change).map key).Nodup := same ▸ after.distinct
    obtain ⟨rows, _⟩ := after
    cases same
    exact dif_pos distinct

theorem find_insert :
    (table.insert row fresh).find (key row) = some row := by
  rw [find_eq_some]
  exact ⟨by simp [insert], rfl⟩

theorem find_insert_other
    (differs : other ≠ key row) : (table.insert row fresh).find other = table.find other := by
  simp only [find, insert]
  rw [List.find?_append]
  simp [differs.symm]

theorem find_insert_of_some {found : Row} (fresh : ∀ other ∈ table.rows, key other ≠ key row)
    (earlier : table.find wanted = some found) : (table.insert row fresh).find wanted = some found := by
  have own := (find_eq_some table).mp earlier
  rw [find_insert_other]
  · exact earlier
  · intro same
    exact fresh found own.1 (own.2.trans same)

theorem find_put :
    (table.put row).find wanted = if wanted = key row then some row else table.find wanted := by
  unfold put
  split
  · next fresh =>
    split
    · next same =>
      subst same
      exact table.find_insert
    · next differs => exact table.find_insert_other differs
  · next taken =>
    push Not at taken
    obtain ⟨old, present, sameKey⟩ := taken
    rw [find_modify]
    split
    · next same =>
      rw [(find_eq_some table).mpr ⟨present, sameKey.trans same.symm⟩]
      simp [sameKey]
    · next differs =>
      cases found : table.find wanted with
      | none => rfl
      | some other =>
        have own := ((find_eq_some table).mp found).2
        simp [own, differs]

theorem find_delete {unwanted : Key} :
    (table.delete unwanted).find wanted = if wanted = unwanted then none else table.find wanted := by
  split
  · next same =>
    subst same
    rw [find_eq_none]
    intro row member
    simpa using (List.mem_filter.mp member).2
  · next differs =>
    cases found : table.find wanted with
    | none =>
      rw [find_eq_none] at found ⊢
      intro row member
      exact found row (List.mem_filter.mp member).1
    | some row =>
      rw [find_eq_some] at found ⊢
      exact ⟨List.mem_filter.mpr ⟨found.1, by simp [found.2, differs]⟩, found.2⟩

end Find

section Members

variable {table : KeyedTable Row Key key} {row other : Row} {change : Row → Row} {condition : Row → Prop}
  {kept : ∀ row, key (change row) = key row}

theorem mem_insert {fresh : ∀ other ∈ table.rows, key other ≠ key row} :
    other ∈ (table.insert row fresh).rows ↔ other ∈ table.rows ∨ other = row := by
  simp [insert]

theorem mem_insert_of_mem (fresh : ∀ other ∈ table.rows, key other ≠ key row)
    (member : other ∈ table.rows) : other ∈ (table.insert row fresh).rows :=
  mem_insert.mpr (.inl member)

theorem mem_modify :
    other ∈ (table.modify change kept).rows ↔ ∃ row ∈ table.rows, change row = other := by
  simp [modify]

theorem mem_update [DecidableEq Key] {wanted : Key} :
    other ∈ (table.update wanted change kept).rows ↔
      (∃ row ∈ table.rows, key row = wanted ∧ change row = other) ∨ other ∈ table.rows ∧ key other ≠ wanted := by
  rw [update, mem_modify]
  constructor
  · rintro ⟨row, member, rfl⟩
    by_cases same : key row = wanted
    · exact .inl ⟨row, member, same, (if_pos same).symm⟩
    · rw [if_neg same]
      exact .inr ⟨member, same⟩
  · rintro (⟨row, member, same, rfl⟩ | ⟨member, differs⟩)
    · exact ⟨row, member, if_pos same⟩
    · exact ⟨other, member, if_neg differs⟩

theorem rows_update_insert [DecidableEq Key]
    (kept : ∀ row, key (change row) = key row) (fresh : ∀ other ∈ table.rows, key other ≠ key row) :
    ((table.insert row fresh).update (key row) change kept).rows = table.rows ++ [change row] := by
  simp only [update, modify, insert, List.map_append, List.map_singleton, if_pos]
  congr 1
  conv_rhs => rw [← List.map_id table.rows]
  apply List.map_congr_left
  intro other member
  exact if_neg (fresh other member)

theorem eq_of_key {first second : Row} (firstMember : first ∈ table.rows) (secondMember : second ∈ table.rows)
    (same : key first = key second) : first = second :=
  List.inj_on_of_nodup_map table.distinct firstMember secondMember same

theorem mem_put [DecidableEq Key] :
    other ∈ (table.put row).rows ↔ other = row ∨ other ∈ table.rows ∧ key other ≠ key row := by
  unfold put
  split
  · next fresh =>
    rw [mem_insert]
    constructor
    · rintro (old | new)
      · exact .inr ⟨old, fresh other old⟩
      · exact .inl new
    · rintro (new | ⟨old, -⟩)
      · exact .inr new
      · exact .inl old
  · next taken =>
    push Not at taken
    obtain ⟨old, present, same⟩ := taken
    rw [mem_modify]
    constructor
    · rintro ⟨before, member, rfl⟩
      split
      · exact .inl rfl
      · next differs => exact .inr ⟨member, differs⟩
    · rintro (rfl | ⟨member, differs⟩)
      · exact ⟨old, present, if_pos same⟩
      · exact ⟨other, member, if_neg differs⟩

theorem filter_insert [DecidablePred condition]
    (fresh : ∀ other ∈ table.rows, key other ≠ key row) (own : ¬ condition row) :
    (table.insert row fresh).rows.filter condition = table.rows.filter condition := by
  simp [insert, List.filter_append, own]

theorem filter_put [DecidableEq Key] [DecidablePred condition]
    (own : ∀ other, key other = key row → ¬ condition other) :
    (table.put row).rows.filter condition = table.rows.filter condition := by
  unfold put
  split
  · next fresh => exact filter_insert fresh (own row rfl)
  · simp only [modify]
    induction table.rows with
    | nil => rfl
    | cons other rows ih =>
      rw [List.map_cons, List.filter_cons, List.filter_cons, ih]
      by_cases same : key other = key row
      · simp [same, own other same, own row rfl]
      · simp [same]

theorem mem_foldl_put [DecidableEq Key] {rows : List Row}
    (member : other ∈ (rows.foldl put table).rows) :
    other ∈ rows ∨ other ∈ table.rows ∧ ∀ row ∈ rows, key other ≠ key row := by
  induction rows generalizing table with
  | nil => exact .inr ⟨member, by simp⟩
  | cons row rows ih =>
    rcases ih member with later | ⟨present, apart⟩
    · exact .inl (List.mem_cons_of_mem _ later)
    · rcases mem_put.mp present with rfl | ⟨old, differs⟩
      · exact .inl (List.mem_cons_self ..)
      · exact .inr ⟨old, List.forall_mem_cons.mpr ⟨differs, apart⟩⟩

/-- `after` is `table` with `row` in the place of `wanted`, where there may have been none. -/
structure Put (table : KeyedTable Row Key key) (wanted : Key) (row : Row) (after : KeyedTable Row Key key) :
    Prop where
  own : row ∈ after.rows ∧ key row = wanted
  others : ∀ other, key other ≠ wanted → (other ∈ after.rows ↔ other ∈ table.rows)

namespace Put

variable {after last : KeyedTable Row Key key} {wanted : Key} {row next : Row}

theorem refl (member : row ∈ table.rows) : table.Put (key row) row table :=
  ⟨⟨member, rfl⟩, fun _ _ => Iff.rfl⟩

theorem trans (first : table.Put wanted row after) (second : after.Put wanted next last) :
    table.Put wanted next last :=
  ⟨second.own, fun other differs => (second.others other differs).trans (first.others other differs)⟩

theorem update [DecidableEq Key] (change : Row → Row) (kept : ∀ row, key (change row) = key row)
    (member : row ∈ table.rows) (same : key row = wanted) :
    table.Put wanted (change row) (table.update wanted change kept) := by
  refine ⟨⟨mem_update.mpr (.inl ⟨row, member, same, rfl⟩), (kept row).trans same⟩, fun other differs => ?_⟩
  rw [mem_update]
  constructor
  · rintro (⟨old, -, same, rfl⟩ | ⟨present, -⟩)
    · exact absurd ((kept old).trans same) differs
    · exact present
  · exact fun present => .inr ⟨present, differs⟩

theorem insert (fresh : ∀ other ∈ table.rows, key other ≠ key row) :
    table.Put (key row) row (table.insert row fresh) := by
  refine ⟨⟨mem_insert.mpr (.inr rfl), rfl⟩, fun other differs => ?_⟩
  rw [mem_insert, or_iff_left]
  rintro rfl
  exact differs rfl

theorem cases (put : table.Put wanted row after) {other : Row} (member : other ∈ after.rows) :
    other = row ∨ other ∈ table.rows ∧ key other ≠ wanted := by
  by_cases same : key other = wanted
  · exact .inl (eq_of_key member put.own.1 (same.trans put.own.2.symm))
  · exact .inr ⟨(put.others other same).mp member, same⟩

end Put

end Members

section Totals

variable (table : KeyedTable Row Key key) {condition : Row → Prop} [DecidablePred condition] {weight : Row → Nat}
  {row : Row} {wanted : Key}

theorem total_insert {fresh : ∀ other ∈ table.rows, key other ≠ key row} :
    total condition weight (table.insert row fresh).rows =
      total condition weight table.rows + if condition row then weight row else 0 := by
  rw [insert, total_append, total_cons, total_nil, Nat.add_zero]

variable [DecidableEq Key]

private theorem total_update_rows (change : Row → Row) :
    (rows : List Row) → (rows.map key).Nodup → row ∈ rows → key row = wanted →
    total condition weight (rows.map fun row => if key row = wanted then change row else row) +
        (if condition row then weight row else 0) =
      total condition weight rows + if condition (change row) then weight (change row) else 0
  | [], _, member, _ => by simp at member
  | head :: rows, distinct, member, same => by
    obtain ⟨fresh, distinct⟩ := List.nodup_cons.mp distinct
    rw [List.map_cons, total_cons, total_cons]
    rcases List.mem_cons.mp member with rfl | later
    · have others : (rows.map fun other => if key other = wanted then change other else other) = rows := by
        refine (List.map_congr_left fun other present => ?_).trans (List.map_id _)
        exact if_neg fun equal => fresh (List.mem_map.mpr ⟨other, present, equal.trans same.symm⟩)
      rw [if_pos same, others]
      omega
    · have differs : key head ≠ wanted := by
        intro equal
        exact fresh (List.mem_map.mpr ⟨row, later, same.trans equal.symm⟩)
      have rest := total_update_rows change rows distinct later same
      rw [if_neg differs]
      omega

theorem total_update {change : Row → Row} {kept : ∀ row, key (change row) = key row}
    (found : table.find wanted = some row) :
    total condition weight (table.update wanted change kept).rows +
        (if condition row then weight row else 0) =
      total condition weight table.rows + if condition (change row) then weight (change row) else 0 := by
  obtain ⟨member, same⟩ := (find_eq_some table).mp found
  exact total_update_rows change table.rows table.distinct member same

theorem total_put (row : Row) :
    total condition weight (table.put row).rows +
        (table.find (key row)).elim 0 (fun old => if condition old then weight old else 0) =
      total condition weight table.rows + if condition row then weight row else 0 := by
  cases found : table.find (key row) with
  | none =>
    have fresh := (find_eq_none table).mp found
    rw [put, dif_pos fresh]
    exact table.total_insert
  | some old =>
    obtain ⟨member, same⟩ := (find_eq_some table).mp found
    have taken : ¬ ∀ other ∈ table.rows, key other ≠ key row := fun fresh => fresh old member same
    rw [put, dif_neg taken]
    exact total_update_rows (fun _ => row) table.rows table.distinct member same

end Totals

section Sums

variable (table : KeyedTable Row Key key) (counts : Key → Prop) [DecidablePred counts] (weight : Row → Nat)

def sum : Nat := Table.total (fun row => counts (key row)) weight table.rows

variable {table counts weight}

theorem sum_put [DecidableEq Key] (row : Row) :
    (table.put row).sum counts weight + (if counts (key row) then (table.find (key row)).elim 0 weight else 0) =
      table.sum counts weight + if counts (key row) then weight row else 0 := by
  have total : total (fun row => counts (key row)) weight (table.put row).rows + _ = _ := table.total_put row
  cases found : table.find (key row) with
  | none => simpa [sum, found] using total
  | some old =>
    have same : key old = key row := ((find_eq_some table).mp found).2
    simpa [sum, found, same] using total

private theorem total_key [DecidableEq Key] {wanted : Key} :
    (rows : List Row) → (rows.map key).Nodup →
    total (fun row => key row = wanted) weight rows = (rows.find? (key · = wanted)).elim 0 weight
  | [], _ => rfl
  | row :: rows, distinct => by
    obtain ⟨fresh, distinct⟩ := List.nodup_cons.mp distinct
    rw [total_cons, List.find?_cons]
    by_cases same : key row = wanted
    · have none : ∀ other ∈ rows, ¬ key other = wanted := fun other member equal =>
        fresh (List.mem_map.mpr ⟨other, member, equal.trans same.symm⟩)
      simp [same, total_eq_zero none]
    · simpa [same] using total_key rows distinct

theorem sum_key [DecidableEq Key] (wanted : Key) :
    table.sum (· = wanted) weight = (table.find wanted).elim 0 weight :=
  total_key table.rows table.distinct

theorem sum_put_grown [DecidableEq Key] {row : Row} {quantity : Nat}
    (grown : weight row = (table.find (key row)).elim 0 weight + quantity) :
    (table.put row).sum counts weight = table.sum counts weight + if counts (key row) then quantity else 0 := by
  have put : (table.put row).sum counts weight + _ = _ := sum_put row
  split at put <;> simp only [*, if_true, if_false] at put ⊢ <;> omega

theorem sum_key_put [DecidableEq Key] (row : Row) (wanted : Key) :
    (table.put row).sum (· = wanted) weight = if wanted = key row then weight row else table.sum (· = wanted) weight := by
  rw [sum_key, sum_key, find_put]
  split <;> rfl

theorem sum_eq_zero_iff (positive : ∀ row ∈ table.rows, 0 < weight row) :
    table.sum counts weight = 0 ↔ ∀ row ∈ table.rows, ¬ counts (key row) := by
  constructor
  · intro zero row member counted
    have listed : weight row ∈ (table.rows.filter fun row => counts (key row)).map weight :=
      List.mem_map_of_mem (List.mem_filter.mpr ⟨member, by simpa using counted⟩)
    have smaller : weight row ≤ table.sum counts weight := List.le_sum_of_mem listed
    have some := positive row member
    omega
  · exact total_eq_zero

end Sums

end KeyedTable
