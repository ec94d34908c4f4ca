import Mathlib.Data.List.Forall2
import Mathlib.Logic.Basic

/-! Database transactions: a state that is read and written until the first failure, which discards
every write. -/

/-- Computations that can fail with an error. -/
class Failing (Error : outParam Type) (m : Type → Type) where
  fail {Result : Type} : Error → m Result

export Failing (fail)

instance {Error : Type} : Failing Error (Except Error) where
  fail := .error

def failIf {Error : Type} {m : Type → Type} [Monad m] [Failing Error m] (condition : Prop)
    [Decidable condition] (error : Error) : m Unit :=
  if condition then fail error else pure ()

namespace Outcome

variable {Error A B : Type} {result : A} {error : Error} {check : Except Error A}

@[simp] theorem bind_ok {first : Except Error A} {next : A → Except Error B} {result : B} :
    (first >>= next) = .ok result ↔ ∃ value, first = .ok value ∧ next value = .ok result := by
  cases first <;> simp [bind, Except.bind]

@[simp] theorem pure_ok {value : A} :
    (pure value : Except Error A) = .ok result ↔ value = result := by
  simp [pure, Except.pure]

theorem error_ne_ok : Except.error error ≠ Except.ok result := nofun

@[simp] theorem fail_ok : ¬ (fail error : Except Error A) = .ok result :=
  nofun

@[simp] theorem failIf_ok {condition : Prop} [Decidable condition] {result : Unit} :
    (failIf condition error : Except Error Unit) = .ok result ↔ ¬ condition := by
  unfold failIf
  split <;> simp_all

theorem toOption_eq_some : check.toOption = some result ↔ check = .ok result := by
  cases check <;> simp [Except.toOption]

theorem mapError_ok {change : Error → Error} :
    check.mapError change = .ok result ↔ check = .ok result := by
  cases check <;> simp [Except.mapError]

theorem mapM_ok {check : A → Except Error B} {items : List A} {results : List B}
    (checked : items.mapM check = .ok results) :
    List.Forall₂ (fun item result => check item = .ok result) items results := by
  induction items generalizing results with
  | nil =>
    simp only [List.mapM_nil, pure_ok] at checked
    subst checked
    exact .nil
  | cons item items ih =>
    simp only [List.mapM_cons, bind_ok, pure_ok] at checked
    obtain ⟨result, head, rest, tail, rfl⟩ := checked
    exact .cons head (ih tail)

end Outcome

def Transaction (Db Error Result : Type) := Db → Except Error (Result × Db)

namespace Transaction

variable {Db Error A B : Type} (action : Transaction Db Error A) (db : Db)

def run : Except Error (A × Db) := action db

instance : Monad (Transaction Db Error) where
  pure value := fun db => .ok (value, db)
  bind first next := fun db =>
    match first db with
    | .ok (value, middle) => next value middle
    | .error error => .error error

theorem lawfulMonad : LawfulMonad (Transaction Db Error) := by
  refine LawfulMonad.mk' _ (fun action => ?_) (fun _ _ => rfl) fun first second third => ?_
  · funext db
    change (match action db with
      | .ok (value, middle) => .ok (value, middle)
      | .error error => .error error) = action db
    cases action db <;> rfl
  · funext db
    change (match (match first db with
        | .ok (value, middle) => second value middle
        | .error error => .error error) with
      | .ok (value, middle) => third value middle
      | .error error => .error error) = _
    cases found : first db <;> simp [bind, found]

instance : MonadLift (Except Error) (Transaction Db Error) where
  monadLift check := fun db => check.map fun value => (value, db)

instance : Failing Error (Transaction Db Error) where
  fail error := fun _ => .error error

def current : Transaction Db Error Db := fun db => .ok (db, db)

def write (update : Db → Db) : Transaction Db Error Unit := fun db => .ok ((), update db)

def required (found : Option A) (error : Error) : Transaction Db Error A :=
  match found with
  | some value => pure value
  | none => fail error

theorem run_bind (first : Transaction Db Error A) (next : A → Transaction Db Error B) (db : Db) :
    (first >>= next).run db =
      match first.run db with
      | .ok (value, middle) => (next value).run middle
      | .error error => .error error := rfl

theorem run_pure (value : A) (db : Db) :
    (pure value : Transaction Db Error A).run db = .ok (value, db) := rfl

theorem run_current (db : Db) : (current : Transaction Db Error Db).run db = .ok (db, db) := rfl

theorem run_write (update : Db → Db) (db : Db) :
    (write update : Transaction Db Error Unit).run db = .ok ((), update db) := rfl

theorem run_fail (error : Error) (db : Db) :
    (fail error : Transaction Db Error A).run db = .error error := rfl

theorem run_failIf (condition : Prop) [Decidable condition] (error : Error) (db : Db) :
    (failIf condition error : Transaction Db Error Unit).run db =
      if condition then .error error else .ok ((), db) := by
  unfold failIf
  split <;> rfl

theorem run_lift (check : Except Error A) (db : Db) :
    (monadLift check : Transaction Db Error A).run db = check.map fun value => (value, db) := rfl

@[simp] theorem run_bind_ok {first : Transaction Db Error A} {next : A → Transaction Db Error B}
    {db after : Db} {result : B} :
    (first >>= next).run db = .ok (result, after) ↔
      ∃ value middle, first.run db = .ok (value, middle) ∧ (next value).run middle = .ok (result, after) := by
  change (match first db with
    | .ok (value, middle) => next value middle
    | .error error => .error error) = _ ↔ ∃ value middle, first db = _ ∧ _
  cases first db with
  | ok outcome =>
    obtain ⟨value, middle⟩ := outcome
    constructor
    · intro succeeded
      exact ⟨value, middle, rfl, succeeded⟩
    · rintro ⟨_, _, same, succeeded⟩
      cases same
      exact succeeded
  | error error => simp

@[simp] theorem run_pure_ok {value result : A} {db after : Db} :
    (pure value : Transaction Db Error A).run db = .ok (result, after) ↔ value = result ∧ db = after := by
  simp [run, pure]

@[simp] theorem run_current_ok {result db after : Db} :
    (current : Transaction Db Error Db).run db = .ok (result, after) ↔ db = result ∧ db = after := by
  simp [run, current]

@[simp] theorem run_write_ok {update : Db → Db} {result : Unit} {db after : Db} :
    (write update : Transaction Db Error Unit).run db = .ok (result, after) ↔ update db = after := by
  simp [run, write]

@[simp] theorem run_lift_ok {check : Except Error A} {result : A} {db after : Db} :
    (monadLift check : Transaction Db Error A).run db = .ok (result, after) ↔
      check = .ok result ∧ db = after := by
  cases check <;> simp [run, monadLift, MonadLift.monadLift, Except.map]

@[simp] theorem run_fail_ok {error : Error} {result : A} {db after : Db} :
    ¬ (fail error : Transaction Db Error A).run db = .ok (result, after) := by
  simp [run, fail]

@[simp] theorem run_failIf_ok {condition : Prop} [Decidable condition] {error : Error} {result : Unit}
    {db after : Db} :
    (failIf condition error : Transaction Db Error Unit).run db = .ok (result, after) ↔
      ¬ condition ∧ db = after := by
  unfold failIf
  split <;> simp_all

@[simp] theorem run_required_ok {found : Option A} {error : Error} {result : A} {db after : Db} :
    (required found error).run db = .ok (result, after) ↔ found = some result ∧ db = after := by
  cases found with
  | none =>
    constructor
    · intro failed
      exact absurd failed run_fail_ok
    · rintro ⟨absent, -⟩
      cases absent
  | some value => simp [required]

@[simp] theorem run_ite_ok {condition : Prop} [Decidable condition] {first second : Transaction Db Error A}
    {db after : Db} {result : A} :
    (if condition then first else second).run db = .ok (result, after) ↔
      condition ∧ first.run db = .ok (result, after) ∨ ¬ condition ∧ second.run db = .ok (result, after) := by
  split <;> simp [*]

theorem mapM_induction_results {Item : Type} {action : Item → Transaction Db Error A}
    {motive : List Item → List A → Db → Prop} {items : List Item} {db after : Db} {results : List A}
    (ran : (items.mapM action).run db = .ok (results, after)) (start : motive items results db)
    (next : ∀ item rest db result results after, motive (item :: rest) (result :: results) db →
      (action item).run db = .ok (result, after) → motive rest results after) : motive [] [] after := by
  have lawful : LawfulMonad (Transaction Db Error) := lawfulMonad
  induction items generalizing db results with
  | nil =>
    simp only [List.mapM_nil, run_pure_ok] at ran
    obtain ⟨rfl, rfl⟩ := ran
    exact start
  | cons item items ih =>
    simp only [List.mapM_cons, run_bind_ok, run_pure_ok] at ran
    obtain ⟨result, middle, head, rest, last, tail, rfl, rfl⟩ := ran
    exact ih tail (next item items db result rest middle start head)

theorem mapM_induction {Item : Type} {action : Item → Transaction Db Error A} {motive : List Item → Db → Prop}
    {items : List Item} {db after : Db} {results : List A} (ran : (items.mapM action).run db = .ok (results, after))
    (start : motive items db)
    (next : ∀ item rest db result after, motive (item :: rest) db → (action item).run db = .ok (result, after) →
      motive rest after) : motive [] after :=
  mapM_induction_results (motive := fun rest _ db => motive rest db) ran start
    fun item rest db result _ after before step => next item rest db result after before step

theorem mapM_cons_runs_iff {Item : Type} {action : Item → Transaction Db Error A} {item : Item} {items : List Item}
    {db : Db} :
    (∃ answer, ((item :: items).mapM action).run db = .ok answer) ↔
      ∃ result middle, (action item).run db = .ok (result, middle) ∧
        ∃ answer, (items.mapM action).run middle = .ok answer := by
  have lawful : LawfulMonad (Transaction Db Error) := lawfulMonad
  constructor
  · rintro ⟨⟨results, last⟩, ran⟩
    simp only [List.mapM_cons, run_bind_ok] at ran
    obtain ⟨result, middle, head, rest, last, tail, -⟩ := ran
    exact ⟨result, middle, head, _, tail⟩
  · rintro ⟨result, middle, head, ⟨rest, last⟩, tail⟩
    refine ⟨(result :: rest, last), ?_⟩
    simp only [List.mapM_cons, run_bind_ok, run_pure_ok]
    exact ⟨_, _, head, _, _, tail, rfl, rfl⟩

def mapError (change : Error → Error) (action : Transaction Db Error A) : Transaction Db Error A :=
  fun db => (action.run db).mapError change

@[simp] theorem run_mapError_ok {change : Error → Error} {action : Transaction Db Error A} {db after : Db}
    {result : A} : (mapError change action).run db = .ok (result, after) ↔ action.run db = .ok (result, after) := by
  change Except.mapError change (action.run db) = _ ↔ _
  cases action.run db with
  | ok outcome => exact Iff.rfl
  | error error => simp [Except.mapError]

def commit : Db :=
  match action.run db with
  | .ok (_, after) => after
  | .error _ => db

def attempt : Db × Except Error A :=
  match action.run db with
  | .ok (result, after) => (after, .ok result)
  | .error error => (db, .error error)

theorem attempt_ok {action : Transaction Db Error A} {db after : Db} {result : A} :
    attempt action db = (after, .ok result) ↔ action.run db = .ok (result, after) := by
  unfold attempt
  cases action.run db with
  | ok outcome => obtain ⟨value, middle⟩ := outcome; simp [and_comm]
  | error error => simp

theorem attempt_error {action : Transaction Db Error A} {db after : Db} {error : Error} :
    attempt action db = (after, .error error) ↔ action.run db = .error error ∧ after = db := by
  unfold attempt
  cases action.run db with
  | ok outcome => simp
  | error found => simp [eq_comm, and_comm]

theorem attempt_congr {first second : Transaction Db Error A} {db : Db} (same : first.run db = second.run db) :
    attempt first db = attempt second db := by
  simp only [attempt, same]

theorem commit_of_ok {action : Transaction Db Error A} {db after : Db} {result : A}
    (succeeded : action.run db = .ok (result, after)) : commit action db = after := by
  simp [commit, succeeded]

theorem commit_of_error {action : Transaction Db Error A} {db : Db} {error : Error}
    (failed : action.run db = .error error) : commit action db = db := by
  simp [commit, failed]

theorem commit_preserves {property : Db → Prop} {action : Transaction Db Error A} {db : Db}
    (before : property db)
    (succeeds : ∀ result after, action.run db = .ok (result, after) → property after) :
    property (commit action db) := by
  cases outcome : action.run db with
  | ok value => exact (commit_of_ok outcome).symm ▸ succeeds value.1 value.2 outcome
  | error error => exact (commit_of_error outcome).symm ▸ before

variable {Whole : Type}

def zoom (part : Whole → Db) (update : Whole → Db → Whole) (action : Transaction Db Error A) :
    Transaction Whole Error A := fun whole =>
  (action.run (part whole)).map fun outcome => (outcome.1, update whole outcome.2)

@[simp] theorem run_zoom_ok {part : Whole → Db} {update : Whole → Db → Whole} {action : Transaction Db Error A}
    {whole after : Whole} {result : A} :
    (zoom part update action).run whole = .ok (result, after) ↔
      ∃ db, action.run (part whole) = .ok (result, db) ∧ after = update whole db := by
  change Except.map _ (action.run (part whole)) = _ ↔ _
  cases action.run (part whole) with
  | ok value =>
    obtain ⟨found, db⟩ := value
    simp only [Except.map, Except.ok.injEq, Prod.mk.injEq]
    constructor
    · rintro ⟨same, rfl⟩
      exact ⟨db, ⟨same, rfl⟩, rfl⟩
    · rintro ⟨db', ⟨same, rfl⟩, rfl⟩
      exact ⟨same, rfl⟩
  | error error => simp [Except.map]

theorem run_zoom_error {part : Whole → Db} {update : Whole → Db → Whole} {action : Transaction Db Error A}
    {whole : Whole} {error : Error} :
    (zoom part update action).run whole = .error error ↔ action.run (part whole) = .error error := by
  change Except.map _ (action.run (part whole)) = _ ↔ _
  cases action.run (part whole) with
  | ok value => simp [Except.map]
  | error other => simp [Except.map]

end Transaction

/-! Properties of the state that every successful run of a transaction keeps. -/

namespace Transaction

variable {Db Whole Error A B : Type} {first action : Transaction Db Error A}

def Maintains (property : Db → Prop) (action : Transaction Db Error A) : Prop :=
  ∀ db result after, property db → action.run db = .ok (result, after) → property after

variable {property : Db → Prop}

theorem maintains_anything (action : Transaction Db Error A) : Maintains (fun _ => True) action :=
  fun _ _ _ _ _ => trivial

theorem maintains_pure (value : A) : Maintains property (pure value : Transaction Db Error A) := by
  intro db result after holds ran
  rw [← (run_pure_ok.mp ran).2]
  exact holds

theorem maintains_fail (error : Error) : Maintains property (fail error : Transaction Db Error A) :=
  fun _ _ _ _ ran => absurd ran run_fail_ok

theorem maintains_failIf (condition : Prop) [Decidable condition] (error : Error) :
    Maintains property (failIf condition error : Transaction Db Error Unit) := by
  intro db result after holds ran
  rw [← (run_failIf_ok.mp ran).2]
  exact holds

theorem maintains_current : Maintains property (current : Transaction Db Error Db) := by
  intro db result after holds ran
  rw [← (run_current_ok.mp ran).2]
  exact holds

theorem maintains_lift (check : Except Error A) : Maintains property (liftM check : Transaction Db Error A) := by
  intro db result after holds ran
  rw [← (run_lift_ok.mp ran).2]
  exact holds

theorem maintains_write {update : Db → Db} (kept : ∀ db, property db → property (update db)) :
    Maintains property (write update : Transaction Db Error Unit) := by
  intro db result after holds ran
  rw [← run_write_ok.mp ran]
  exact kept db holds

theorem maintains_bind {next : A → Transaction Db Error B}
    (head : Maintains property first) (tail : ∀ value, Maintains property (next value)) :
    Maintains property (first >>= next) := by
  intro db result after holds ran
  obtain ⟨value, middle, started, rest⟩ := run_bind_ok.mp ran
  exact tail value middle result after (head db value middle holds started) rest

theorem maintains_ite {condition : Prop} [Decidable condition] {second : Transaction Db Error A}
    (left : Maintains property first) (right : Maintains property second) :
    Maintains property (if condition then first else second) := by
  split
  · exact left
  · exact right

theorem maintains_zoom {part : Whole → Db} {update : Whole → Db → Whole} {whole : Whole → Prop} (inner : Maintains property action)
    (enters : ∀ state, whole state → property (part state))
    (leaves : ∀ state db, whole state → property db → whole (update state db)) :
    Maintains whole (zoom part update action) := by
  intro state result after holds ran
  obtain ⟨db, zoomed, rfl⟩ := run_zoom_ok.mp ran
  exact leaves state db holds (inner _ result db (enters state holds) zoomed)

theorem commit_maintained (kept : Maintains property action) {db : Db}
    (holds : property db) : property (commit action db) :=
  commit_preserves holds fun result after ran => kept db result after holds ran

/-- Every run of the action leaves what is observed of the state as it is, and fails, if it does, with an error of those
that are allowed. -/
def Spares {Observed : Type} (observe : Db → Observed) (allowed : Error → Prop) (action : Transaction Db Error A) :
    Prop :=
  ∀ db, match action.run db with
    | .ok (_, after) => observe after = observe db
    | .error error => allowed error

section Spares

variable {Observed : Type} {observe : Db → Observed} {allowed : Error → Prop}
  {action : Transaction Db Error A} {db : Db} {error : Error}

theorem Spares.of_ok (spares : Spares observe allowed action) {after : Db}
    {result : A} (ran : action.run db = .ok (result, after)) : observe after = observe db := by
  have kept := spares db
  rw [ran] at kept
  exact kept

theorem Spares.of_error (spares : Spares observe allowed action) (failed : action.run db = .error error) : allowed error := by
  have kept := spares db
  rw [failed] at kept
  exact kept

theorem spares_pure (value : A) : Spares observe allowed (pure value : Transaction Db Error A) := fun _ => rfl

theorem spares_current : Spares observe allowed (current : Transaction Db Error Db) := fun _ => rfl

theorem spares_fail (fails : allowed error) :
    Spares observe allowed (fail error : Transaction Db Error A) := fun _ => fails

theorem spares_write {update : Db → Db} (kept : ∀ db, observe (update db) = observe db) :
    Spares observe allowed (write update : Transaction Db Error Unit) := kept

theorem spares_lift {check : Except Error A} (fails : ∀ error, check = .error error → allowed error) :
    Spares observe allowed (liftM check : Transaction Db Error A) := by
  intro db
  cases check with
  | ok value => exact (rfl : observe db = observe db)
  | error error => exact fails error rfl

theorem spares_failIf {condition : Prop} [Decidable condition] (fails : allowed error) :
    Spares observe allowed (failIf condition error : Transaction Db Error Unit) := by
  intro db
  rw [run_failIf]
  split
  · next failed =>
    split at failed
    · cases failed
    · cases failed
      rfl
  · next failed =>
    split at failed
    · cases failed
      exact fails
    · cases failed

theorem Spares.bind {first : Transaction Db Error A} {next : A → Transaction Db Error B}
    (head : Spares observe allowed first) (tail : ∀ value, Spares observe allowed (next value)) :
    Spares observe allowed (first >>= next) := by
  intro db
  rw [run_bind]
  cases ran : first.run db with
  | error error => exact head.of_error ran
  | ok outcome =>
    obtain ⟨value, middle⟩ := outcome
    have kept := tail value middle
    rw [head.of_ok ran] at kept
    exact kept

theorem spares_mapM {Item : Type} {action : Item → Transaction Db Error A}
    (each : ∀ item, Spares observe allowed (action item)) (items : List Item) :
    Spares observe allowed (items.mapM action) := by
  have := @lawfulMonad Db Error
  induction items with
  | nil => exact spares_pure []
  | cons item rest ih =>
    rw [List.mapM_cons]
    exact (each item).bind fun result => ih.bind fun results => spares_pure (result :: results)

end Spares

end Transaction
