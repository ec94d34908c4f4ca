import Mathlib.Data.List.Basic

/-! An insertion-ordered map in which a later entry for a key replaces the earlier one. -/

abbrev JsMap (Key Value : Type) := List (Key × Value)

namespace JsMap

variable {Key Value : Type} [DecidableEq Key] {map : JsMap Key Value} {key : Key} {value : Value}

@[grind =] def get? : JsMap Key Value → Key → Option Value
  | [], _ => none
  | (key, value) :: entries, wanted => if key = wanted then some value else get? entries wanted

@[grind =] def set : JsMap Key Value → Key → Value → JsMap Key Value
  | [], key, value => [(key, value)]
  | (other, old) :: entries, key, value =>
    if other = key then (other, value) :: entries else (other, old) :: set entries key value

def ofEntries (entries : List (Key × Value)) : JsMap Key Value :=
  entries.foldl (fun map entry => map.set entry.1 entry.2) []

@[simp] theorem get?_nil (wanted : Key) : get? ([] : JsMap Key Value) wanted = none := rfl

theorem get?_set (map : JsMap Key Value) (key wanted : Key) (value : Value) :
    (map.set key value).get? wanted = if key = wanted then some value else map.get? wanted := by
  induction map with
  | nil => simp [set, get?]
  | cons entry entries ih =>
    obtain ⟨other, old⟩ := entry
    by_cases same : other = key
    · subst same
      by_cases hit : other = wanted <;> simp [set, get?, hit]
    · by_cases hit : other = wanted
      · subst hit
        simp [set, get?, same, Ne.symm same]
      · simp [set, get?, same, hit, ih]

theorem get?_foldl_set {Item : Type} (key : Item → Key) (value : Item → Value) (items : List Item)
    (map : JsMap Key Value) (wanted : Key) :
    (items.foldl (fun map item => map.set (key item) (value item)) map).get? wanted =
      match (items.filter (fun item => key item = wanted)).getLast? with
      | some item => some (value item)
      | none => map.get? wanted := by
  induction items generalizing map with
  | nil => rfl
  | cons item items ih =>
    rw [List.foldl_cons, ih, get?_set]
    by_cases same : key item = wanted
    · rw [List.filter_cons_of_pos (by simpa using same), List.getLast?_cons]
      cases (items.filter (fun item => key item = wanted)).getLast? with
      | none => simp [same]
      | some found => simp
    · rw [List.filter_cons_of_neg (by simpa using same)]
      simp [same]

theorem mem_of_get? (found : map.get? key = some value) :
    (key, value) ∈ map := by
  induction map with
  | nil => cases found
  | cons entry entries ih =>
    obtain ⟨other, old⟩ := entry
    rw [get?] at found
    split at found
    · next same =>
      rw [← same, ← Option.some.inj found]
      exact List.mem_cons_self
    · exact List.mem_cons_of_mem _ (ih found)

theorem get?_of_mem (distinct : (map.map Prod.fst).Nodup)
    (member : (key, value) ∈ map) : map.get? key = some value := by
  induction map with
  | nil => cases member
  | cons entry entries ih =>
    obtain ⟨other, old⟩ := entry
    obtain ⟨fresh, distinct⟩ := List.nodup_cons.mp distinct
    rw [get?]
    rcases List.mem_cons.mp member with same | later
    · cases same
      exact if_pos rfl
    · have differs : other ≠ key := by
        rintro rfl
        exact fresh (List.mem_map.mpr ⟨_, later, rfl⟩)
      rw [if_neg differs]
      exact ih distinct later

theorem keys_set {other : Key}
    (member : other ∈ (map.set key value).map Prod.fst) : other = key ∨ other ∈ map.map Prod.fst := by
  induction map with
  | nil => exact .inl (List.mem_singleton.mp member)
  | cons entry entries ih =>
    rw [set] at member
    split at member
    · exact .inr member
    · rcases List.mem_cons.mp member with rfl | later
      · exact .inr List.mem_cons_self
      · exact (ih later).imp_right (List.mem_cons_of_mem _)

theorem nodup_set (distinct : (map.map Prod.fst).Nodup) (key : Key) (value : Value) :
    ((map.set key value).map Prod.fst).Nodup := by
  induction map with
  | nil => exact List.nodup_cons.mpr ⟨List.not_mem_nil, List.nodup_nil⟩
  | cons entry entries ih =>
    obtain ⟨fresh, apart⟩ := List.nodup_cons.mp distinct
    rw [set]
    split
    · exact distinct
    · next differs =>
      refine List.nodup_cons.mpr ⟨fun member => ?_, ih apart⟩
      exact (keys_set member).elim differs fresh

section Accumulate

variable {Item : Type} (key : Item → Option Key) (step : Option Value → Item → Value)

def accumulate (map : JsMap Key Value) (items : List Item) : JsMap Key Value :=
  items.foldl (fun map item =>
    match key item with
    | none => map
    | some key => map.set key (step (map.get? key) item)) map

theorem get?_accumulate (map : JsMap Key Value) (items : List Item) (wanted : Key) :
    (accumulate key step map items).get? wanted =
      (items.filter fun item => key item = some wanted).foldl (fun found item => some (step found item))
        (map.get? wanted) := by
  induction items generalizing map with
  | nil => rfl
  | cons item items ih =>
    rw [accumulate, List.foldl_cons]
    change (accumulate key step _ items).get? wanted = _
    rw [ih]
    cases known : key item with
    | none => rw [List.filter_cons_of_neg (by simp [known])]
    | some own =>
      by_cases same : own = wanted
      · rw [List.filter_cons_of_pos (by simp [known, same]), List.foldl_cons]
        simp [get?_set, same]
      · rw [List.filter_cons_of_neg (by simp [known, same])]
        simp [get?_set, same]

theorem nodup_accumulate {map : JsMap Key Value} (distinct : (map.map Prod.fst).Nodup) (items : List Item) :
    ((accumulate key step map items).map Prod.fst).Nodup := by
  induction items generalizing map with
  | nil => exact distinct
  | cons item items ih =>
    rw [accumulate, List.foldl_cons]
    apply ih
    split
    · exact distinct
    · exact nodup_set distinct _ _

end Accumulate

end JsMap
