import KernelClient.Payload

/-!
# Steps of a check

A check of a payload goes through the parts of a value and stops at the first that is at fault. So
what is known of an accepted value is read off the steps one by one, and a value of which every part
is as it should be is accepted. Each lemma here says when one step, or one reader of a part,
succeeds.
-/

namespace KernelClient

open Json (Fields)

theorem bind_eq_ok_iff {ε α β : Type} {step : Except ε α} {next : α → Except ε β} {result : β} :
    (step >>= next) = .ok result ↔ ∃ value, step = .ok value ∧ next value = .ok result := by
  cases step with
  | error fault => simp [bind, Except.bind]
  | ok value => simp [bind, Except.bind]

/-- A check is passed before the next step is taken. -/
theorem check_bind_eq_ok_iff {ε α : Type} {check : Except ε Unit} {next : Unit → Except ε α}
    {result : α} : (check >>= next) = .ok result ↔ check = .ok () ∧ next () = .ok result :=
  bind_eq_ok_iff.trans ⟨fun ⟨_, passed⟩ => passed, fun passed => ⟨(), passed⟩⟩

/-- A check that is made only under a condition, before other steps. -/
theorem ite_check_bind_eq_ok_iff {ε : Type} {condition : Prop} [Decidable condition]
    {check rest : Except ε Unit} :
    (if condition then check >>= fun _ => rest else rest) = .ok () ↔
      (condition → check = .ok ()) ∧ rest = .ok () := by
  split
  case isTrue holds => simp [check_bind_eq_ok_iff, holds]
  case isFalse fails => simp [fails]

/-- A check that is made last and only under a condition. -/
theorem ite_check_eq_ok_iff {ε : Type} {condition : Prop} [Decidable condition]
    {check : Except ε Unit} :
    (if condition then check else pure ()) = .ok () ↔ (condition → check = .ok ()) := by
  split
  case isTrue holds => simp [holds]
  case isFalse fails => exact iff_of_true rfl fun holds => absurd holds fails

/-- A check of all items is passed if each of them passes it. -/
theorem forM_eq_ok_iff {ε α : Type} {check : α → Except ε Unit} {items : List α} :
    items.forM check = .ok () ↔ ∀ item ∈ items, check item = .ok () := by
  induction items with
  | nil => exact ⟨fun _ _ member => (List.not_mem_nil member).elim, fun _ => rfl⟩
  | cons item rest ih =>
      have step : (item :: rest).forM check = check item >>= fun _ => rest.forM check := rfl
      rw [step, check_bind_eq_ok_iff, ih, List.forall_mem_cons]

/-- All items are read if each of them is, and the results stand in the order of the items. -/
theorem mapM_eq_ok_iff {ε α β : Type} {read : α → Except ε β} {items : List α} {results : List β} :
    items.mapM read = .ok results ↔ items.map read = results.map .ok := by
  induction items generalizing results with
  | nil => simp [pure, Except.pure, eq_comm]
  | cons item rest ih =>
      simp only [List.mapM_cons, bind_eq_ok_iff, ih, pure, Except.pure, Except.ok.injEq]
      constructor
      · rintro ⟨first, readFirst, others, readRest, rfl⟩
        simp [readFirst, readRest]
      · intro read
        cases results with
        | nil => simp at read
        | cons first others =>
            obtain ⟨readFirst, readRest⟩ := List.cons.inj read
            exact ⟨first, readFirst, others, readRest, rfl⟩

namespace Payload

theorem objectFields_eq_ok_iff {what : String} {value : Json} {fields : Fields} :
    objectFields what value = .ok fields ↔ value = .object fields := by
  unfold objectFields
  split <;> simp_all

theorem arrayItems_eq_ok_iff {what : String} {value : Json} {items : List Json} :
    arrayItems what value = .ok items ↔ value = .array items := by
  unfold arrayItems
  split <;> simp_all

theorem stringField_eq_ok_iff {what : String} {fields : Fields} {field text : String} :
    stringField what fields field = .ok text ↔ fields.get? field = some (.string text) := by
  unfold stringField
  split <;> simp_all

/-- A list is read if the value is an array of which every item is. -/
theorem list_eq_ok_iff {α : Type} {what : String} {read : Json → Except PayloadFault α}
    {value : Json} {models : List α} :
    list what read value = .ok models ↔
      ∃ items, value = .array items ∧ items.map read = models.map .ok := by
  unfold list
  simp only [bind_eq_ok_iff, arrayItems_eq_ok_iff, mapM_eq_ok_iff]

/-- Named strings that were written are read as they were. -/
theorem stringMap_of_ofStringMap {what field : String} {fields : Fields}
    {entries : List (String × String)} (found : fields.get? field = some (ofStringMap entries)) :
    stringMap what fields field = .ok entries := by
  unfold stringMap
  rw [found]
  exact mapM_eq_ok_iff.mpr (by rw [List.map_map]; rfl)

end Payload

end KernelClient
