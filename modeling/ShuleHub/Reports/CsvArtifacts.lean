import ShuleHub.Lib.Csv
import ShuleHub.Reports.Snapshots

/-! The CSV of a report is read back as the table that it was made from. -/

namespace ShuleHub.Reports

open Outcome

open Uploads (Bytes)

/-- A cell that is undefined stands as null; a date that is none is the outer time without the inner. -/
structure CsvReportArtifactInput where
  reportId : String
  title : String
  filename : String
  headers : List ReportArtifactValue
  rows : List (List ReportArtifactValue)
  generatedAt : Option (Option Int)

structure CsvReportArtifact where
  reportId : String
  title : String
  filename : String
  contentType : String
  generatedAt : String
  rowCount : Nat
  checksumSha256 : String
  csv : List Char

def createCsvTextArtifact (sha256 : Bytes → String) (input : CsvReportArtifactInput) (now : Int) :
    Except Exception CsvReportArtifact := do
  let csv ← renderCsv (input.headers :: input.rows)
  let generatedAt ← csvText (.date (input.generatedAt.getD (some now)))
  return { reportId := input.reportId, title := input.title, filename := input.filename
           contentType := "text/csv; charset=utf-8", generatedAt, rowCount := input.rows.length
           checksumSha256 := sha256 (JsText.utf8 csv), csv }

theorem escapeCsvValue_ok {value : ReportArtifactValue} {text : String} (normal : csvText value = .ok text) :
    escapeCsvValue value = .ok (Csv.escape text.toList) := by
  have special : Csv.isSpecial = fun c => decide (c ∈ [Json.mark, ',', '\r', '\n']) := rfl
  rw [escapeCsvValue, normal, Csv.escape, special]
  change (if _ then _ else _) = _
  split <;> rfl

theorem exists_csvText {value : ReportArtifactValue} (dated : value ≠ .date none) : ∃ text, csvText value = .ok text := by
  cases value with
  | date time =>
    cases time with
    | none => exact absurd rfl dated
    | some time => exact ⟨_, rfl⟩
  | _ => exact ⟨_, rfl⟩

theorem commaSeparated_escape (fields : List (List Char)) :
    Json.commaSeparated (fields.map Csv.escape) = Csv.writeRecord fields := by
  induction fields with
  | nil => rfl
  | cons field fields ih =>
    cases fields with
    | nil => rfl
    | cons other fields => exact congrArg (Csv.escape field ++ ',' :: ·) ih

theorem intercalate_append {separator : List Char} {lines : List (List Char)} (present : lines ≠ []) :
    List.intercalate separator lines ++ separator = lines.flatMap (· ++ separator) := by
  induction lines with
  | nil => exact absurd rfl present
  | cons line lines ih =>
    cases lines with
    | nil => simp [List.intercalate]
    | cons next lines =>
      rw [List.flatMap_cons, ← ih (List.cons_ne_nil next lines)]
      simp [List.intercalate]

theorem mapM_of_ok {A B C Error : Type} {f : A → Except Error B} {g : A → Except Error C} {h : B → C} {items : List A}
    {results : List B} (each : ∀ item result, f item = .ok result → g item = .ok (h result))
    (ran : items.mapM f = .ok results) : items.mapM g = .ok (results.map h) := by
  induction items generalizing results with
  | nil =>
    simp only [List.mapM_nil, pure_ok] at ran ⊢
    rw [← ran, List.map_nil]
  | cons item items ih =>
    simp only [List.mapM_cons, bind_ok, pure_ok] at ran ⊢
    obtain ⟨result, head, rest, tail, rfl⟩ := ran
    exact ⟨h result, each item result head, rest.map h, ih tail, List.map_cons⟩

theorem exists_mapM {A B Error : Type} {f : A → Except Error B} {items : List A}
    (each : ∀ item ∈ items, ∃ result, f item = .ok result) : ∃ results, items.mapM f = .ok results := by
  induction items with
  | nil => exact ⟨[], rfl⟩
  | cons item items ih =>
    obtain ⟨⟨result, head⟩, others⟩ := List.forall_mem_cons.mp each
    obtain ⟨results, tail⟩ := ih others
    exact ⟨result :: results, by simp only [List.mapM_cons, head, tail, bind_ok, pure_ok]; exact
      ⟨_, rfl, _, rfl, rfl⟩⟩

theorem wide_of_mapM {A B Error : Type} {f : A → Except Error B} {rows : List (List A)} {table : List (List B)}
    (wide : ∀ row ∈ rows, row ≠ []) (ran : rows.mapM (·.mapM f) = .ok table) : ∀ texts ∈ table, texts ≠ [] := by
  have each := mapM_ok ran
  clear ran
  induction each with
  | nil => simp
  | cons read _ ih =>
    obtain ⟨present, others⟩ := List.forall_mem_cons.mp wide
    have filled := (mapM_ok read).length_eq
    simp only [List.forall_mem_cons]
    refine ⟨?_, ih others⟩
    intro empty
    rw [empty] at filled
    exact present (List.eq_nil_of_length_eq_zero filled)

theorem renderCsv_ok {rows : List (List ReportArtifactValue)} {table : List (List String)} (present : rows ≠ [])
    (normal : rows.mapM (·.mapM csvText) = .ok table) :
    renderCsv rows = .ok (Csv.write (table.map (·.map String.toList))) := by
  have lines : rows.mapM (fun row => do return Json.commaSeparated (← row.mapM escapeCsvValue)) =
      .ok (table.map fun row => Csv.writeRecord (row.map String.toList)) := by
    apply mapM_of_ok _ normal
    intro row texts read
    have cells := mapM_of_ok (fun _ _ => escapeCsvValue_ok) read
    simp only [cells, bind_ok, pure_ok]
    refine ⟨_, rfl, ?_⟩
    rw [← commaSeparated_escape, List.map_map]
    rfl
  have filled : table ≠ [] := by
    intro empty
    have same := (mapM_ok normal).length_eq
    rw [empty] at same
    exact present (List.eq_nil_of_length_eq_zero same)
  simp only [renderCsv, lines, bind_ok, pure_ok]
  refine ⟨_, rfl, ?_⟩
  rw [intercalate_append (by simpa using filled), Csv.write, List.flatMap_map, List.flatMap_map]

/-- A reader of the format finds in the CSV of a report exactly the header and the rows, each cell as its text. -/
theorem csv_reads_back {sha256 : Bytes → String} {input : CsvReportArtifactInput} {now : Int}
    (named : input.headers ≠ []) (wide : ∀ row ∈ input.rows, row ≠ [])
    (dated : ∀ row ∈ input.headers :: input.rows, .date none ∉ row) (generated : input.generatedAt ≠ some none) :
    ∃ artifact table, createCsvTextArtifact sha256 input now = .ok artifact ∧
      (input.headers :: input.rows).mapM (·.mapM csvText) = .ok table ∧
      Csv.read artifact.csv = some (table.map (·.map String.toList)) := by
  obtain ⟨table, normal⟩ : ∃ table, (input.headers :: input.rows).mapM (·.mapM csvText) = .ok table := by
    apply exists_mapM
    intro row listed
    apply exists_mapM
    intro value cell
    apply exists_csvText
    intro unknown
    exact dated row listed (unknown ▸ cell)
  obtain ⟨generatedAt, moment⟩ : ∃ text, csvText (.date (input.generatedAt.getD (some now))) = .ok text := by
    apply exists_csvText
    intro unknown
    apply generated
    rcases given : input.generatedAt with _ | _ | time <;> simp_all
  have rendered := renderCsv_ok (List.cons_ne_nil _ _) normal
  have made : ∃ artifact, createCsvTextArtifact sha256 input now = .ok artifact ∧
      artifact.csv = Csv.write (table.map (·.map String.toList)) := by
    simp only [createCsvTextArtifact, rendered, moment, Outcome.bind_ok, Outcome.pure_ok]
    exact ⟨_, ⟨_, rfl, _, rfl, rfl⟩, rfl⟩
  obtain ⟨artifact, created, written⟩ := made
  refine ⟨artifact, table, created, normal, ?_⟩
  rw [written]
  apply Csv.read_write
  intro record member
  obtain ⟨texts, listed, rfl⟩ := List.mem_map.mp member
  intro empty
  have filled : ∀ row ∈ input.headers :: input.rows, row ≠ [] := List.forall_mem_cons.mpr ⟨named, wide⟩
  exact wide_of_mapM filled normal texts listed (List.map_eq_nil_iff.mp empty)

theorem quoted_cell_reads_back : ∃ artifact table,
    createCsvTextArtifact (fun _ => "") ⟨"r", "t", "f", [.str "a,\"b"], [[.str "\r\n"], [.null]], none⟩ 0 = .ok artifact ∧
      [[.str "a,\"b"], [.str "\r\n"], [ReportArtifactValue.null]].mapM (·.mapM csvText) = .ok table ∧
      Csv.read artifact.csv = some (table.map (·.map String.toList)) :=
  csv_reads_back (by decide) (by decide) (by decide) (by decide)

end ShuleHub.Reports
