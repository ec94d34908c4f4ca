import ShuleHub.Inventory.Reconciliation
import ShuleHub.Lib.IsoDates

/-! The numbers of orders, requests, transfers, incidents and stock counts. A number keeps the date and the last five
digits of the clock, which come back after a hundred seconds. -/

namespace ShuleHub.Inventory

open JsDate Runs Transaction

structure Instant where
  time : Nat
  dated : (time : Int) ≤ maxTime

structure ClockReading where
  date : Instant
  now : Instant

def Instant.day (instant : Instant) : Int := (instant.time : Int) / 86400000

def dateStamp (instant : Instant) : List Char := ((toISOString instant.time).toList.take 10).filter (· ≠ '-')

def buildNumber (kind : String) (reading : ClockReading) : String :=
  kind ++ "-" ++ String.ofList (dateStamp reading.date) ++ "-" ++ String.ofList (lastDigits 5 reading.now.time)

example : buildNumber "PO" ⟨⟨1767605400001, by decide⟩, ⟨1767605400001, by decide⟩⟩ = "PO-20260105-00001" := by
  decide +kernel

/-- The same date, or the same month where the year takes up the place of the day. -/
def SameDate (first second : Instant) : Prop :=
  first.day = second.day ∨
    (2932896 < first.day ∧ 2932896 < second.day ∧
      (civilFromDays first.day).monthIndex = (civilFromDays second.day).monthIndex)
deriving Decidable

def SameDigits (first second : Instant) : Prop :=
  first.time % 100000 = second.time % 100000 ∧ (first.time < 10000 ↔ second.time < 10000)
deriving Decidable

def Coincide (first second : ClockReading) : Prop :=
  SameDate first.date second.date ∧ SameDigits first.now second.now
deriving Decidable

section Stamps

variable {width n : Nat} {first second : List Char}

def stampChars (date : CivilDate) : List Char :=
  if date.year ≤ 9999 then (pad 4 date.year.toNat).toList ++ ((pad 2 date.month).toList ++ (pad 2 date.day).toList)
  else '+' :: ((pad 6 date.year.toNat).toList ++ (pad 2 date.month).toList)

theorem day_nonneg (instant : Instant) : 0 ≤ instant.day := Int.ediv_nonneg (Int.natCast_nonneg _) (by decide)

theorem year_range (instant : Instant) :
    0 ≤ (civilFromDays instant.day).year ∧ (civilFromDays instant.day).year ≤ 999999 := by
  have dated : IsTime instant.time := by
    have last := instant.dated
    unfold IsTime
    unfold maxTime at *
    omega
  refine ⟨?_, (year_of_isTime dated).2⟩
  by_cases late : 2932896 < instant.day
  · have years := year_of_later late
    omega
  · have early := day_nonneg instant
    have four : HasFourDigits instant.day := by
      unfold HasFourDigits
      omega
    exact (year_of_hasFourDigits four).1

theorem unmarked_of_pad : (pad width n).toList.filter (· ≠ '-') = (pad width n).toList := by
  apply List.filter_eq_self.mpr
  intro c member
  have digit := isDigit_of_mem_pad member
  apply decide_eq_true
  rintro rfl
  exact absurd digit (by decide)

theorem unmarked_cons (chars : List Char) : ('-' :: chars).filter (· ≠ '-') = chars.filter (· ≠ '-') :=
  List.filter_cons_of_neg (by decide)

theorem take_date {third : List Char} (rest : List Char)
    (length : first.length + second.length + third.length = 8) :
    (first ++ '-' :: (second ++ '-' :: (third ++ rest))).take 10 = first ++ '-' :: (second ++ '-' :: third) := by
  have whole : first ++ '-' :: (second ++ '-' :: (third ++ rest)) =
      (first ++ '-' :: (second ++ '-' :: third)) ++ rest := by
    simp only [List.append_assoc, List.cons_append]
  rw [whole]
  apply List.take_left'
  simp only [List.length_append, List.length_cons]
  omega

theorem take_month (rest : List Char) (length : first.length + second.length = 9) :
    (first ++ '-' :: (second ++ '-' :: rest)).take 10 = first ++ '-' :: second := by
  have whole : first ++ '-' :: (second ++ '-' :: rest) = (first ++ '-' :: second) ++ '-' :: rest := by
    simp only [List.append_assoc, List.cons_append]
  rw [whole]
  apply List.take_left'
  simp only [List.length_append, List.length_cons]
  omega

theorem stampChars_eq {date : CivilDate} (range : 0 ≤ date.year ∧ date.year ≤ 999999)
    (parts : 1 ≤ date.month ∧ date.month ≤ 12 ∧ 1 ≤ date.day ∧ date.day ≤ 31) (rest : List Char) :
    ((dateChars date rest).take 10).filter (· ≠ '-') = stampChars date := by
  have months := @pad_length 2 date.month (by decide) (by omega)
  have days := @pad_length 2 date.day (by decide) (by omega)
  unfold stampChars dateChars yearText
  by_cases four : date.year ≤ 9999
  · have years := @pad_length 4 date.year.toNat (by decide) (by omega)
    rw [if_pos four, if_pos ⟨range.1, four⟩, take_date rest (by rw [years, months, days])]
    simp only [List.filter_append, unmarked_cons, unmarked_of_pad]
  · have years := @pad_length 6 date.year.toNat (by decide) (by omega)
    have sign : "+".toList.filter (· ≠ '-') = ['+'] := by decide
    have length : ("+" ++ pad 6 date.year.toNat).toList.length + (pad 2 date.month).toList.length = 9 := by
      rw [String.toList_append, List.length_append, years, months]
      rfl
    rw [if_neg four, if_neg (fun short => four short.2), if_pos range.1, take_month _ length, String.toList_append]
    simp only [List.filter_append, unmarked_cons, unmarked_of_pad, sign, List.cons_append, List.nil_append]

theorem dateStamp_eq (instant : Instant) : dateStamp instant = stampChars (civilFromDays instant.day) := by
  unfold dateStamp
  rw [toList_toISOString]
  exact stampChars_eq (year_range instant) (civilFromDays_ranges instant.day) _

theorem pad_inj {first second : Nat} (same : (pad width first).toList = (pad width second).toList) :
    first = second := by
  rw [← @decimalValue_pad width first, String.toList_inj.mp same, decimalValue_pad]

theorem civilFromDays_inj {first second : Int} (same : civilFromDays first = civilFromDays second) :
    first = second := by
  have firstBack := daysToMonth_civilFromDays first
  have secondBack := daysToMonth_civilFromDays second
  rw [same] at firstBack
  omega

theorem signed_ne_of_pad (positive : 0 < width) (fits : n < 10 ^ width) (rest signed : List Char) :
    (pad width n).toList ++ rest ≠ '+' :: signed := by
  intro same
  have long := pad_length positive fits
  cases digits : (pad width n).toList with
  | nil =>
    rw [digits] at long
    exact absurd long positive.ne
  | cons c others =>
    rw [digits, List.cons_append] at same
    have digit : c.isDigit = true := isDigit_of_mem_pad (digits ▸ List.mem_cons_self)
    rw [(List.cons.inj same).1] at digit
    exact absurd digit (by decide)

theorem civilDate_ext {first second : CivilDate} (year : first.year = second.year)
    (month : first.month = second.month) (day : first.day = second.day) : first = second := by
  cases first
  cases second
  cases year
  cases month
  cases day
  rfl

theorem stampChars_inj {first second : CivilDate} (firstRange : 0 ≤ first.year ∧ first.year ≤ 999999)
    (secondRange : 0 ≤ second.year ∧ second.year ≤ 999999)
    (firstParts : 1 ≤ first.month ∧ first.month ≤ 12 ∧ 1 ≤ first.day ∧ first.day ≤ 31)
    (secondParts : 1 ≤ second.month ∧ second.month ≤ 12 ∧ 1 ≤ second.day ∧ second.day ≤ 31) :
    stampChars first = stampChars second ↔
      first = second ∨ (9999 < first.year ∧ 9999 < second.year ∧ first.monthIndex = second.monthIndex) := by
  unfold stampChars CivilDate.monthIndex
  have firstMonth := @pad_length 2 first.month (by decide) (by omega)
  have secondMonth := @pad_length 2 second.month (by decide) (by omega)
  by_cases firstFour : first.year ≤ 9999
  · by_cases secondFour : second.year ≤ 9999
    · rw [if_pos firstFour, if_pos secondFour]
      constructor
      · intro same
        have firstYear := @pad_length 4 first.year.toNat (by decide) (by omega)
        have secondYear := @pad_length 4 second.year.toNat (by decide) (by omega)
        obtain ⟨years, parts⟩ := List.append_inj same (firstYear.trans secondYear.symm)
        obtain ⟨months, days⟩ := List.append_inj parts (firstMonth.trans secondMonth.symm)
        have year : first.year = second.year := by
          have digits := pad_inj years
          omega
        exact .inl (civilDate_ext year (pad_inj months) (pad_inj days))
      · rintro (rfl | later)
        · rfl
        · omega
    · rw [if_pos firstFour, if_neg secondFour]
      constructor
      · intro same
        exact absurd same (signed_ne_of_pad (by decide) (by omega) _ _)
      · rintro (rfl | later)
        · exact absurd firstFour secondFour
        · omega
  · by_cases secondFour : second.year ≤ 9999
    · rw [if_neg firstFour, if_pos secondFour]
      constructor
      · intro same
        exact absurd same.symm (signed_ne_of_pad (by decide) (by omega) _ _)
      · rintro (rfl | later)
        · exact absurd secondFour firstFour
        · omega
    · rw [if_neg firstFour, if_neg secondFour]
      constructor
      · intro same
        have firstYear := @pad_length 6 first.year.toNat (by decide) (by omega)
        have secondYear := @pad_length 6 second.year.toNat (by decide) (by omega)
        obtain ⟨years, months⟩ := List.append_inj (List.cons.inj same).2 (firstYear.trans secondYear.symm)
        have year := pad_inj years
        have month := pad_inj months
        right
        omega
      · rintro (rfl | ⟨-, -, months⟩)
        · rfl
        · have year : first.year = second.year := by omega
          have month : first.month = second.month := by omega
          rw [year, month]

theorem dateStamp_inj (first second : Instant) : dateStamp first = dateStamp second ↔ SameDate first second := by
  have later (instant : Instant) : 9999 < (civilFromDays instant.day).year ↔ 2932896 < instant.day := by
    constructor
    · intro long
      by_contra early
      have four : HasFourDigits instant.day := by
        have since := day_nonneg instant
        unfold HasFourDigits
        omega
      have short := (year_of_hasFourDigits four).2
      omega
    · intro late
      have long := year_of_later late
      omega
  rw [dateStamp_eq, dateStamp_eq, stampChars_inj (year_range first) (year_range second) (civilFromDays_ranges _)
    (civilFromDays_ranges _), later, later]
  exact or_congr_left ⟨civilFromDays_inj, congrArg civilFromDays⟩

theorem lastDigits_inj (first second : Instant) :
    lastDigits 5 first.time = lastDigits 5 second.time ↔ SameDigits first second := by
  have short (instant : Instant) : (lastDigits 5 instant.time).length < 5 ↔ instant.time < 10000 := by
    have digits : (Nat.toDigits 10 instant.time).length ≤ 4 ↔ instant.time < 10 ^ 4 :=
      Nat.length_toDigits_le_iff (by decide) (by decide)
    rw [lastDigits, List.length_drop]
    omega
  have atMost (instant : Instant) : (lastDigits 5 instant.time).length ≤ 5 := by
    rw [lastDigits, List.length_drop]
    omega
  unfold SameDigits
  constructor
  · intro same
    refine ⟨?_, ?_⟩
    · have values := congrArg (fun digits => JsText.decimalValue (String.ofList digits)) same
      simp only [decimalValue_lastDigits] at values
      exact values
    · rw [← short, ← short, same]
  · rintro ⟨values, lengths⟩
    by_cases early : first.time < 10000
    · have late := lengths.mp early
      have equal : first.time = second.time := by omega
      rw [equal]
    · apply eq_of_decimalValue (fun c => isDigit_of_mem_lastDigits) (fun c => isDigit_of_mem_lastDigits)
      · have firstShort := short first
        have secondShort := short second
        have firstLong := atMost first
        have secondLong := atMost second
        omega
      · rw [decimalValue_lastDigits, decimalValue_lastDigits]
        exact values

theorem not_mem_dateStamp (instant : Instant) : '-' ∉ dateStamp instant := by
  intro member
  have marked := (List.mem_filter.mp member).2
  exact absurd rfl (of_decide_eq_true marked)

theorem not_mem_lastDigits (count n : Nat) : '-' ∉ lastDigits count n :=
  fun member => absurd (isDigit_of_mem_lastDigits member) (by decide)

theorem toList_dashed (kind : String) (stamp digits : List Char) :
    (kind ++ "-" ++ String.ofList stamp ++ "-" ++ String.ofList digits).toList =
      kind.toList ++ '-' :: (stamp ++ '-' :: digits) := by
  have dash : "-".toList = ['-'] := by decide
  simp only [String.toList_append, String.toList_ofList, List.append_assoc, dash, List.cons_append, List.nil_append]

theorem buildNumber_inj (kind : String) (first second : ClockReading) :
    buildNumber kind first = buildNumber kind second ↔ Coincide first second := by
  rw [Coincide, ← dateStamp_inj, ← lastDigits_inj, ← String.toList_inj, buildNumber, buildNumber, toList_dashed,
    toList_dashed]
  constructor
  · intro same
    have tail := (List.cons.inj (List.append_cancel_left same)).2
    obtain ⟨stamps, -, digits⟩ :=
      (List.append_cons_inj_of_notMem (not_mem_dateStamp _) (not_mem_lastDigits _ _)).mp tail
    exact ⟨stamps, digits⟩
  · rintro ⟨stamps, digits⟩
    rw [stamps, digits]

end Stamps

inductive DocumentKind where
  | purchaseOrder
  | request
  | transfer
  | incident
  | stockCount
deriving DecidableEq

def DocumentKind.code : DocumentKind → String
  | .purchaseOrder => "PO"
  | .request => "REQ"
  | .transfer => "TRF"
  | .incident => "INC"
  | .stockCount => "CNT"

def DocumentKind.numberConstraint : DocumentKind → String
  | .purchaseOrder => "uq_inventory_po_tenant_number"
  | .request => "uq_inventory_requests_tenant_number"
  | .transfer => "uq_inventory_transfers_tenant_number"
  | .incident => "uq_inventory_incidents_tenant_number"
  | .stockCount => "uq_inventory_stock_counts_tenant_number"

inductive DocumentRequest where
  | createPurchaseOrder (dto : CreatePurchaseOrder)
  | createRequest (dto : CreateInventoryRequest)
  | createTransfer (dto : CreateTransfer)
  | createIncident (dto : CreateIncident)
  | postStockCount (dto : PostStockCount)

def DocumentRequest.kind : DocumentRequest → DocumentKind
  | .createPurchaseOrder _ => .purchaseOrder
  | .createRequest _ => .request
  | .createTransfer _ => .transfer
  | .createIncident _ => .incident
  | .postStockCount _ => .stockCount

/-- A call with what the clock shows when it builds a number, and when it builds a second one. -/
structure DocumentCall where
  request : DocumentRequest
  actorUserId : Option String
  now : Int
  today : String
  newId : String
  first : ClockReading
  second : ClockReading

namespace DocumentCall

variable (call : DocumentCall)

def context : CallContext where
  actorUserId := call.actorUserId
  now := call.now
  today := call.today
  newId := call.newId
  buildNumber kind := buildNumber kind call.first
  buildSecondNumber kind := buildNumber kind call.second

def kind (call : DocumentCall) : DocumentKind := call.request.kind

def reading : ClockReading :=
  match call.request with
  | .createIncident _ => call.second
  | _ => call.first

def number : String := buildNumber call.kind.code call.reading

def create : InventoryTransaction Unit :=
  match call.request with
  | .createPurchaseOrder dto => do
    let _ ← createPurchaseOrder call.context dto
    return ()
  | .createRequest dto => do
    let _ ← createRequest call.context dto
    return ()
  | .createTransfer dto => do
    let _ ← createTransfer call.context dto
    return ()
  | .createIncident dto => do
    let _ ← createIncident call.context dto
    return ()
  | .postStockCount dto => do
    let _ ← postStockCount call.context dto
    return ()

end DocumentCall

@[grind =] def documentNumbers (db : InventoryDb) : DocumentKind → List String
  | .purchaseOrder => db.purchaseOrders.rows.map (·.poNumber)
  | .request => db.requests.rows.map (·.requestNumber)
  | .transfer => db.transfers.rows.map (·.transferNumber)
  | .incident => db.incidents.rows.map (·.incidentNumber)
  | .stockCount => db.stockCounts.rows.map (·.snapshotNumber)

structure DocumentBooks where
  db : InventoryDb
  readings : List (DocumentKind × ClockReading)

namespace DocumentBooks

variable (books : DocumentBooks) (call : DocumentCall)

def step : DocumentBooks :=
  match call.create.run books.db with
  | .ok (_, db) => ⟨db, books.readings ++ [(call.kind, call.reading)]⟩
  | .error _ => books

def RefersToItself (db : InventoryDb) (call : DocumentCall) : Prop :=
  ∀ dto, call.request = .createIncident dto → ∀ incident after,
    (createIncident call.context dto).run db = .ok (incident, after) →
      ∃ movement, after.movements = db.movements ++ [movement] ∧ movement.reference = some incident.incidentNumber

/-- What is asked of one call: its number is new among those of its kind, the constraint on them does not fail it, and
an incident has one number. -/
structure Numbered : Prop where
  new : call.number ∉ documentNumbers books.db call.kind
  allowed : call.create.run books.db ≠ .error (.database call.kind.numberConstraint)
  refers : RefersToItself books.db call

def CanTake (db : InventoryDb) (dto : CreateIncident) : Prop :=
  ∃ item, db.items.find dto.itemId = some item ∧ dto.quantity ≤ item.quantityOnHand

/-- The clock shows no date and digits that it showed for a document of the kind, nor others within an incident. -/
structure Distinguishes : Prop where
  apart : ∀ reading, (call.kind, reading) ∈ books.readings → ¬ Coincide reading call.reading
  once : ∀ dto, call.request = .createIncident dto → CanTake books.db dto → Coincide call.first call.second

def Recorded : Prop :=
  ∀ kind number, number ∈ documentNumbers books.db kind ↔
    ∃ reading, (kind, reading) ∈ books.readings ∧ buildNumber kind.code reading = number

section Creations

variable {db after : InventoryDb} {call : DocumentCall}

def documentTables (db : InventoryDb) := (db.purchaseOrders, db.requests, db.transfers, db.incidents, db.stockCounts)

def IsRefusal (error : Exception) : Prop := ∀ name, error ≠ .database name

abbrev Plain {Result : Type} (action : InventoryTransaction Result) : Prop := Spares documentTables IsRefusal action

theorem plain_required {Result : Type} {found : Option Result} {error : Exception} (refusal : IsRefusal error) :
    Plain (required found error) := by
  cases found with
  | none => exact spares_fail refusal
  | some value => exact spares_pure value

theorem plain_findItemById (itemId : String) : Plain (findItemById itemId) :=
  spares_current.bind fun db => spares_pure (db.items.find itemId)

theorem plain_recordStockMovement (movement : InventoryStockMovement) : Plain (recordStockMovement movement) :=
  spares_write fun _ => rfl

theorem plain_changeItemStock (itemId : String) (next : Nat → Option Nat)
    (cost : InventoryItem → Int × Option String) : Plain (changeItemStock itemId next cost) := by
  refine spares_current.bind fun db => ?_
  split
  · exact spares_pure none
  next item found =>
  split
  · exact spares_pure none
  · exact Spares.bind (spares_write fun _ => rfl) fun _ => spares_pure _

theorem plain_assertActiveInventoryLocation (location label : String) :
    Plain (assertActiveInventoryLocation location label) := by
  refine Spares.bind (spares_current.bind fun db => spares_pure _) fun found => ?_
  apply spares_failIf
  exact fun _ => nofun

theorem plain_requireText (value message : String) :
    Plain (liftM (requireText value message) : InventoryTransaction String) := by
  apply spares_lift
  intro error failed
  unfold requireText at failed
  split at failed
  · cases failed
    exact fun _ => nofun
  · cases failed

theorem documentNumbers_congr (same : documentTables after = documentTables db) (kind : DocumentKind) :
    documentNumbers after kind = documentNumbers db kind := by
  simp only [documentTables, Prod.mk.injEq] at same
  obtain ⟨purchaseOrders, requests, transfers, incidents, stockCounts⟩ := same
  cases kind with
  | purchaseOrder => rw [documentNumbers, documentNumbers, purchaseOrders]
  | request => rw [documentNumbers, documentNumbers, requests]
  | transfer => rw [documentNumbers, documentNumbers, transfers]
  | incident => rw [documentNumbers, documentNumbers, incidents]
  | stockCount => rw [documentNumbers, documentNumbers, stockCounts]

def Adds (db after : InventoryDb) (kind : DocumentKind) (number : String) : Prop :=
  number ∉ documentNumbers db kind ∧
    ∀ other wanted, wanted ∈ documentNumbers after other ↔
      wanted ∈ documentNumbers db other ∨ (other = kind ∧ wanted = number)

/-- A part of a call that adds a document, or fails; for the constraint on the numbers it does so only where the number
is there already. -/
def Creates {Result : Type} (kind : DocumentKind) (number : String) (action : InventoryTransaction Result) : Prop :=
  ∀ db, match action.run db with
    | .ok (_, after) => Adds db after kind number
    | .error error => error = .database kind.numberConstraint → number ∈ documentNumbers db kind

variable {kind : DocumentKind} {number : String} {Result Other : Type}

theorem Creates.after_plain {first : InventoryTransaction Other} {next : Other → InventoryTransaction Result}
    (head : Plain first) (tail : ∀ value, Creates kind number (next value)) :
    Creates kind number (first >>= next) := by
  intro db
  rw [run_bind]
  cases ran : first.run db with
  | error error => exact fun same => absurd same (head.of_error ran _)
  | ok outcome =>
    obtain ⟨value, middle⟩ := outcome
    have same := documentNumbers_congr (head.of_ok ran)
    have created := tail value middle
    unfold Adds at created ⊢
    simp only [same] at created
    exact created

theorem Creates.before_pure {first : InventoryTransaction Other} (head : Creates kind number first)
    (value : Other → Result) : Creates kind number (first >>= fun result => pure (value result)) := by
  intro db
  have created := head db
  rw [run_bind]
  cases ran : first.run db with
  | error error =>
    rw [ran] at created
    exact created
  | ok outcome =>
    rw [ran] at created
    exact created

theorem adds_insert {Row Key : Type} [DecidableEq Key] {key : Row → Key} {table rows : KeyedTable Row Key key}
    {row : Row} (numberOf : Row → String) (before : documentNumbers db kind = table.rows.map numberOf)
    (later : documentNumbers after kind = rows.rows.map numberOf)
    (others : ∀ other ≠ kind, documentNumbers after other = documentNumbers db other)
    (inserted : table.tryInsert row = some rows) (new : ¬ ∃ other ∈ table.rows, numberOf other = numberOf row) :
    Adds db after kind (numberOf row) := by
  obtain ⟨fresh, rfl⟩ := (KeyedTable.tryInsert_eq_some _).mp inserted
  constructor
  · rw [before]
    exact fun member => new (List.mem_map.mp member)
  · intro other wanted
    by_cases own : other = kind
    · subst own
      rw [later, before, KeyedTable.insert, List.map_append, List.mem_append, List.map_singleton, List.mem_singleton]
      simp only [true_and]
    · rw [others other own]
      simp only [own, false_and, or_false]

theorem tryInsert_none {Row Key : Type} [DecidableEq Key] {key : Row → Key} {table : KeyedTable Row Key key} {row : Row}
    (refused : table.tryInsert row = none) : ∃ other ∈ table.rows, key other = key row := by
  by_contra new
  have fresh : ∀ other ∈ table.rows, key other ≠ key row := fun other member same => new ⟨other, member, same⟩
  rw [(KeyedTable.tryInsert_eq_some _).mpr ⟨fresh, rfl⟩] at refused
  cases refused

theorem creates_createPurchaseOrder (context : CallContext) (dto : CreatePurchaseOrder) :
    Creates .purchaseOrder (context.buildNumber "PO") (createPurchaseOrder context dto) := by
  intro db
  unfold createPurchaseOrder
  simp only [run_bind, run_current, run_failIf]
  by_cases used : ∃ other ∈ db.purchaseOrders.rows, other.poNumber = (newPurchaseOrder context dto).poNumber
  · rw [if_pos used]
    exact fun _ => List.mem_map.mpr used
  · rw [if_neg used]
    cases inserted : db.purchaseOrders.tryInsert (newPurchaseOrder context dto) with
    | none => exact fun same => absurd (Exception.database.inj same) (by decide)
    | some rows =>
      have added : Adds db { db with purchaseOrders := rows } .purchaseOrder
          (newPurchaseOrder context dto).poNumber := by
        apply adds_insert (·.poNumber) rfl rfl _ inserted used
        intro other own
        cases other <;> first | rfl | exact absurd rfl own
      exact added

theorem creates_createRequest (context : CallContext) (dto : CreateInventoryRequest) :
    Creates .request (context.buildNumber "REQ") (createRequest context dto) := by
  intro db
  unfold createRequest
  simp only [run_bind, run_current, run_failIf]
  by_cases used : ∃ other ∈ db.requests.rows, other.requestNumber = (newRequest context dto).requestNumber
  · rw [if_pos used]
    exact fun _ => List.mem_map.mpr used
  · rw [if_neg used]
    cases inserted : db.requests.tryInsert (newRequest context dto) with
    | none => exact fun same => absurd (Exception.database.inj same) (by decide)
    | some rows =>
      have added : Adds db { db with requests := rows } .request (newRequest context dto).requestNumber := by
        apply adds_insert (·.requestNumber) rfl rfl _ inserted used
        intro other own
        cases other <;> first | rfl | exact absurd rfl own
      exact added

theorem creates_insertTransfer (transfer : InventoryTransfer) :
    Creates .transfer transfer.transferNumber (insertTransfer transfer) := by
  intro db
  unfold insertTransfer
  simp only [run_bind, run_current, run_failIf]
  by_cases used : ∃ other ∈ db.transfers.rows, other.transferNumber = transfer.transferNumber
  · rw [if_pos used]
    exact fun _ => List.mem_map.mpr used
  · rw [if_neg used]
    cases inserted : db.transfers.tryInsert transfer with
    | none => exact fun same => absurd (Exception.database.inj same) (by decide)
    | some rows =>
      have added : Adds db { db with transfers := rows } .transfer transfer.transferNumber := by
        apply adds_insert (·.transferNumber) rfl rfl _ inserted used
        intro other own
        cases other <;> first | rfl | exact absurd rfl own
      exact added

theorem creates_insertIncident (incident : InventoryIncident) :
    Creates .incident incident.incidentNumber (insertIncident incident) := by
  intro db
  unfold insertIncident
  simp only [run_bind, run_current]
  cases inserted : db.incidents.tryInsert incident with
  | none => exact fun _ => List.mem_map.mpr (tryInsert_none inserted)
  | some rows =>
    obtain ⟨fresh, -⟩ := (KeyedTable.tryInsert_eq_some _).mp inserted
    have added : Adds db { db with incidents := rows } .incident incident.incidentNumber := by
      apply adds_insert (·.incidentNumber) rfl rfl _ inserted fun ⟨other, member, same⟩ => fresh other member same
      intro other own
      cases other <;> first | rfl | exact absurd rfl own
    exact added

theorem creates_insertStockCount (snapshot : StockCountSnapshot) :
    Creates .stockCount snapshot.snapshotNumber (insertStockCount snapshot) := by
  intro db
  unfold insertStockCount
  simp only [run_bind, run_current]
  cases inserted : db.stockCounts.tryInsert snapshot with
  | none => exact fun _ => List.mem_map.mpr (tryInsert_none inserted)
  | some rows =>
    obtain ⟨fresh, -⟩ := (KeyedTable.tryInsert_eq_some _).mp inserted
    have added : Adds db { db with stockCounts := rows } .stockCount snapshot.snapshotNumber := by
      apply adds_insert (·.snapshotNumber) rfl rfl _ inserted fun ⟨other, member, same⟩ => fresh other member same
      intro other own
      cases other <;> first | rfl | exact absurd rfl own
    exact added

theorem creates_createTransfer (context : CallContext) (dto : CreateTransfer) :
    Creates .transfer (context.buildNumber "TRF") (createTransfer context dto) := by
  unfold createTransfer
  refine Creates.after_plain (plain_requireText _ _) fun fromLocation => ?_
  refine Creates.after_plain (plain_requireText _ _) fun toLocation => ?_
  split
  · refine Creates.after_plain (plain_assertActiveInventoryLocation _ _) fun _ => ?_
    refine Creates.after_plain (plain_assertActiveInventoryLocation _ _) fun _ => ?_
    exact Creates.after_plain (plain_requireText _ _) fun requestedBy => creates_insertTransfer _
  · intro db same
    cases same

theorem creates_createIncident (context : CallContext) (dto : CreateIncident) :
    Creates .incident (context.buildSecondNumber "INC") (createIncident context dto) := by
  unfold createIncident
  refine Creates.after_plain (plain_findItemById _) fun found => ?_
  refine Creates.after_plain (plain_required fun _ => nofun) fun item => ?_
  refine Creates.after_plain (plain_changeItemStock _ _ _) fun taken => ?_
  refine Creates.after_plain (plain_required fun _ => nofun) fun mutation => ?_
  refine Creates.after_plain (plain_recordStockMovement _) fun _ => ?_
  exact (creates_insertIncident (newIncident context dto)).before_pure fun _ => newIncident context dto

theorem refusal_badRequest (message : String) : IsRefusal (.badRequest message) := fun _ => nofun

theorem refusal_itemNotFound (itemId : String) : IsRefusal (itemNotFound itemId) := fun _ => nofun

theorem plain_putBalance (itemId locationCode : String) (quantityOnHand : Nat) :
    Plain (putBalance itemId locationCode quantityOnHand) :=
  spares_write fun _ => rfl

theorem plain_applyStockCount (locationCode : Option String) (itemId : String) (countedQuantity : Nat) :
    Plain (applyStockCount locationCode itemId countedQuantity) := by
  cases locationCode with
  | none =>
    refine (plain_changeItemStock _ _ _).bind fun found => ?_
    exact (plain_required (refusal_itemNotFound itemId)).bind fun mutation => spares_pure _
  | some code =>
    have sets : Plain (setItemLocationBalanceFromCount itemId code countedQuantity) :=
      spares_current.bind fun db => (plain_putBalance _ _ _).bind fun _ => spares_pure _
    refine sets.bind fun balances => ?_
    split
    next before counted =>
    split
    · refine (plain_findItemById itemId).bind fun found => ?_
      exact (plain_required (refusal_itemNotFound itemId)).bind fun item => spares_pure _
    · refine (plain_changeItemStock _ _ _).bind fun found => ?_
      exact (plain_required (refusal_badRequest _)).bind fun mutation => spares_pure _

theorem plain_countLine (context : CallContext) (locationCode notes : Option String) (line : StockCountLine) :
    Plain (countLine context locationCode notes line) := by
  refine (plain_findItemById _).bind fun found => ?_
  refine (plain_required (refusal_itemNotFound line.itemId)).bind fun item => ?_
  refine (plain_applyStockCount _ _ _).bind fun result => ?_
  dsimp only
  split
  · exact (plain_recordStockMovement _).bind fun _ => spares_pure _
  · exact spares_pure _

theorem plain_assertCountLocation (locationCode : Option String) : Plain (assertCountLocation locationCode) := by
  cases locationCode with
  | none => exact spares_pure ()
  | some code => exact plain_assertActiveInventoryLocation code "Stock count"

theorem creates_postStockCount (context : CallContext) (dto : PostStockCount) :
    Creates .stockCount (context.buildNumber "CNT") (postStockCount context dto) := by
  refine Creates.after_plain (plain_assertCountLocation _) fun _ => ?_
  refine Creates.after_plain (spares_mapM (plain_countLine context _ dto.notes) dto.lines) fun lines => ?_
  exact (creates_insertStockCount _).before_pure fun _ => _

theorem creates_create (call : DocumentCall) : Creates call.kind call.number call.create := by
  obtain ⟨request, actorUserId, now, today, newId, first, second⟩ := call
  cases request with
  | createPurchaseOrder dto => exact (creates_createPurchaseOrder _ dto).before_pure fun _ => ()
  | createRequest dto => exact (creates_createRequest _ dto).before_pure fun _ => ()
  | createTransfer dto => exact (creates_createTransfer _ dto).before_pure fun _ => ()
  | createIncident dto => exact (creates_createIncident _ dto).before_pure fun _ => ()
  | postStockCount dto => exact (creates_postStockCount _ dto).before_pure fun _ => ()

end Creations

section Calls

variable {books : DocumentBooks} {call : DocumentCall}

theorem new_iff (recorded : Recorded books) : call.number ∉ documentNumbers books.db call.kind ↔
    ∀ reading, (call.kind, reading) ∈ books.readings → ¬ Coincide reading call.reading := by
  rw [recorded]
  constructor
  · intro new reading member same
    exact new ⟨reading, member, (buildNumber_inj _ _ _).mpr same⟩
  · rintro apart ⟨reading, member, same⟩
    exact apart reading member ((buildNumber_inj _ _ _).mp same)

theorem createIncident_movement {context : CallContext} {dto : CreateIncident} {db after : InventoryDb}
    {incident : InventoryIncident} (ran : (createIncident context dto).run db = .ok (incident, after)) :
    CanTake db dto ∧ incident.incidentNumber = context.buildSecondNumber "INC" ∧
      ∃ movement, after.movements = db.movements ++ [movement] ∧
        movement.reference = some (context.buildNumber "INC") := by
  simp only [createIncident, insertIncident, run_bind_ok, findItemById_ok, required_ok, recordStockMovement_ok,
    run_current_ok, run_pure_ok] at ran
  obtain ⟨_, _, ⟨-, rfl⟩, _, _, ⟨-, rfl⟩, _, _, written, mutation, _, ⟨rfl, rfl⟩, _, _, rfl, _, _,
    ⟨_, _, ⟨rfl, rfl⟩, stored⟩, rfl, rfl⟩ := ran
  have change := changeItemStock_ok written
  obtain ⟨item, found, -⟩ := change.known
  have taken := change.changed
  rw [withdrawn, ← change.before, onHand_of_find found] at taken
  have enough : dto.quantity ≤ item.quantityOnHand := by
    by_contra short
    rw [if_neg short] at taken
    cases taken
  refine ⟨⟨item, found, enough⟩, rfl, ?_⟩
  split at stored
  · obtain rfl := run_write_ok.mp stored
    rw [change.stored]
    exact ⟨_, rfl, rfl⟩
  · exact absurd stored run_fail_ok

theorem createIncident_run {context : CallContext} {dto : CreateIncident} {db : InventoryDb} (takes : CanTake db dto)
    (new : context.buildSecondNumber "INC" ∉ documentNumbers db .incident) :
    ∃ incident after, (createIncident context dto).run db = .ok (incident, after) := by
  obtain ⟨item, found, enough⟩ := takes
  have fresh : ∀ other ∈ db.incidents.rows, other.incidentNumber ≠ (newIncident context dto).incidentNumber :=
    fun other member same => new (List.mem_map.mpr ⟨other, member, same⟩)
  have inserted := (KeyedTable.tryInsert_eq_some _).mpr ⟨fresh, rfl⟩
  have searched : (findItemById dto.itemId).run db = .ok (some item, db) := findItemById_ok.mpr ⟨found, rfl⟩
  have taken : withdrawn dto.quantity item.quantityOnHand = some (item.quantityOnHand - dto.quantity) := if_pos enough
  let changed : InventoryItem := { item with quantityOnHand := item.quantityOnHand - dto.quantity }
  let mutation : InventoryStockMutation := ⟨changed, item.quantityOnHand, item.quantityOnHand - dto.quantity⟩
  let stocked : InventoryDb := { db with items := db.items.put changed }
  have decremented : (decrementItemStock dto.itemId dto.quantity).run db = .ok (some mutation, stocked) := by
    unfold decrementItemStock changeItemStock
    simp only [run_bind, run_current, found, taken]
    rfl
  let after : InventoryDb := { stocked with
    movements := db.movements ++ [damageMovement context dto item mutation]
    incidents := db.incidents.insert (newIncident context dto) fresh }
  have ran : (createIncident context dto).run db = .ok (newIncident context dto, after) := by
    unfold createIncident insertIncident
    simp only [run_bind, searched, required, run_pure, run_current, decremented, run_write, recordStockMovement]
    have table : stocked.incidents = db.incidents := rfl
    simp only [table, inserted]
    rfl
  exact ⟨_, after, ran⟩

theorem refers_iff (new : call.number ∉ documentNumbers books.db call.kind) : RefersToItself books.db call ↔
    ∀ dto, call.request = .createIncident dto → CanTake books.db dto → Coincide call.first call.second := by
  refine forall₂_congr fun dto own => ?_
  have number : call.number = call.context.buildSecondNumber "INC" := by
    unfold DocumentCall.number DocumentCall.kind DocumentCall.reading
    rw [own]
    rfl
  have kind : call.kind = .incident := congrArg DocumentRequest.kind own
  rw [number, kind] at new
  constructor
  · intro refers takes
    obtain ⟨incident, after, ran⟩ := createIncident_run takes new
    obtain ⟨-, numbered, movement, appended, reference⟩ := createIncident_movement ran
    obtain ⟨recorded, same, refersTo⟩ := refers incident after ran
    have one := List.append_cancel_left (appended.symm.trans same)
    rw [← (List.cons.inj one).1, reference, numbered] at refersTo
    exact (buildNumber_inj _ _ _).mp (Option.some.inj refersTo)
  · intro once incident after ran
    obtain ⟨takes, numbered, movement, appended, reference⟩ := createIncident_movement ran
    refine ⟨movement, appended, ?_⟩
    rw [reference, numbered]
    exact congrArg some ((buildNumber_inj _ _ _).mpr (once takes))

theorem numbered_iff (recorded : Recorded books) : Numbered books call ↔ Distinguishes books call := by
  constructor
  · intro numbered
    exact ⟨(new_iff recorded).mp numbered.new, (refers_iff numbered.new).mp numbered.refers⟩
  · intro distinguishes
    have new := (new_iff recorded).mpr distinguishes.apart
    refine ⟨new, fun failed => ?_, (refers_iff new).mpr distinguishes.once⟩
    have created := creates_create call books.db
    rw [failed] at created
    exact new (created rfl)

theorem readings_step {kind : DocumentKind} {reading : ClockReading}
    (member : (kind, reading) ∈ (books.step call).readings) :
    (kind, reading) ∈ books.readings ∨ (kind = call.kind ∧ reading = call.reading) := by
  unfold step at member
  split at member
  · simpa using member
  · exact .inl member

theorem recorded_step (recorded : Recorded books) : Recorded (books.step call) := by
  have created := creates_create call books.db
  unfold step
  split
  · next result db ran =>
    rw [ran] at created
    intro kind number
    rw [created.2, recorded]
    simp only [List.mem_append, List.mem_singleton, Prod.mk.injEq, or_and_right, exists_or]
    apply or_congr_right
    constructor
    · rintro ⟨rfl, rfl⟩
      exact ⟨call.reading, ⟨rfl, rfl⟩, rfl⟩
    · rintro ⟨reading, ⟨rfl, rfl⟩, rfl⟩
      exact ⟨rfl, rfl⟩
  · exact recorded

end Calls

end DocumentBooks

/-- In a run of calls that create numbered documents, every call has a new number that no constraint refuses and every
incident is referred to by its own number, exactly when the clock shows no call the date and the last five digits of a
document of the same kind, and shows an incident the same ones twice. -/
theorem documents_are_numbered_apart_iff {books : DocumentBooks} (recorded : books.Recorded)
    (calls : List DocumentCall) :
    Meets DocumentBooks.step DocumentBooks.Numbered books calls ↔
      Meets DocumentBooks.step DocumentBooks.Distinguishes books calls := by
  apply meets_iff_meets _ _ calls recorded
  · intro books call recorded
    exact DocumentBooks.numbered_iff recorded
  · intro books call recorded _
    exact DocumentBooks.recorded_step recorded

namespace DocumentBooks

def stationery : DocumentBooks where
  db := { InventoryDb.empty with items := InventoryDb.empty.items.put {
    id := "item-1"
    itemName := "Exercise books"
    sku := "EX-200"
    categoryId := none
    unit := "piece"
    quantityOnHand := 40
    supplierId := none
    unitPrice := 6000
    reorderLevel := 10
    storageLocation := none
    notes := none
    status := "active"
    isArchived := false } }
  readings := []

def still (time : Nat) (dated : (time : Int) ≤ maxTime) : ClockReading := ⟨⟨time, dated⟩, ⟨time, dated⟩⟩

def orderAt (time : Nat) (dated : (time : Int) ≤ maxTime) : DocumentCall where
  request := .createPurchaseOrder ⟨"supplier-1", none, [⟨"item-1", "Exercise books", 20, 6000⟩], none⟩
  actorUserId := some "bursar"
  now := time
  today := "2026-01-05"
  newId := "order-" ++ toString time
  first := still time dated
  second := still time dated

def damageAt (first second : Nat) (firstDated : (first : Int) ≤ maxTime) (secondDated : (second : Int) ≤ maxTime) :
    DocumentCall where
  request := .createIncident ⟨"item-1", "damage", 3, "Rain", "Stores", 18000, none⟩
  actorUserId := some "bursar"
  now := first
  today := "2026-01-05"
  newId := "incident"
  first := still first firstDated
  second := still second secondDated

theorem stationery_recorded : stationery.Recorded := by
  intro kind number
  cases kind <;> exact ⟨nofun, fun ⟨_, member, _⟩ => absurd member List.not_mem_nil⟩

end DocumentBooks

open DocumentBooks in
theorem morning_documents_are_numbered_apart :
    Meets step Numbered stationery
      [orderAt 1767605400001 (by decide), damageAt 1767605400001 1767605400001 (by decide) (by decide),
        orderAt 1767605400002 (by decide)] := by
  refine (documents_are_numbered_apart_iff stationery_recorded _).mpr ⟨⟨?_, nofun⟩, ⟨?_, ?_⟩, ⟨?_, nofun⟩, trivial⟩
  · exact fun _ member => absurd member List.not_mem_nil
  · intro reading member
    rcases readings_step member with none | ⟨other, -⟩
    · exact absurd none List.not_mem_nil
    · cases other
  · intro dto own takes
    decide +kernel
  · intro reading member
    rcases readings_step member with earlier | ⟨other, -⟩
    · rcases readings_step earlier with none | ⟨-, rfl⟩
      · exact absurd none List.not_mem_nil
      · decide +kernel
    · cases other

open DocumentBooks in
/-- An order is refused a hundred seconds after another one, and an incident that comes over the end of a millisecond
has two numbers. -/
theorem orders_collide_after_a_hundred_seconds :
    stationery.Recorded ∧
      ¬ Meets step Numbered stationery [orderAt 1767605400001 (by decide), orderAt 1767605500001 (by decide)] ∧
      ¬ Meets step Numbered stationery [damageAt 1767605400001 1767605400002 (by decide) (by decide)] := by
  refine ⟨stationery_recorded, fun ⟨_, second, _⟩ => ?_, fun ⟨incident, _⟩ => ?_⟩
  · exact absurd second.new (by decide +kernel)
  · have once := (refers_iff incident.new).mp incident.refers _ rfl ⟨_, rfl, by decide +kernel⟩
    exact absurd once (by decide +kernel)

end ShuleHub.Inventory
