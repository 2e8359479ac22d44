import Mathlib.Data.List.Forall2

/-!
# Computations that may fail

A computation of several steps succeeds when every step of it does. The lemmas
open such a computation at its result, so that what a success says about the
steps can be read off without going through the failures. The results of a list
correspond to its entries one by one.
-/

namespace NativeBridge

/-- A result of which something can be computed is a success. -/
theorem exists_ok_of_computed {ε α β : Type} {result : Except ε α} {read : α → β} {value : β}
    (computed : result.toOption.map read = some value) :
    ∃ found, result = .ok found ∧ read found = value := by
  cases result with
  | error fault => cases computed
  | ok found => exact ⟨found, rfl, Option.some.inj computed⟩

/-- Of two lists that correspond, each member of the second has a partner in the first. -/
theorem exists_of_forall₂ {α β : Type} {relation : α → β → Prop} {first : List α}
    {second : List β} (same : List.Forall₂ relation first second) {right : β}
    (member : right ∈ second) : ∃ left ∈ first, relation left right := by
  induction same with
  | nil => exact absurd member List.not_mem_nil
  | cons related _ ih =>
      rcases List.mem_cons.mp member with rfl | later
      · exact ⟨_, List.mem_cons_self, related⟩
      · obtain ⟨left, isLeft, related⟩ := ih later
        exact ⟨left, List.mem_cons_of_mem _ isLeft, related⟩

/-- A list has partners exactly if each of its entries has one. -/
theorem exists_forall₂_iff {α β : Type} {relation : α → β → Prop} {entries : List α} :
    (∃ partners, List.Forall₂ relation entries partners) ↔
      ∀ entry ∈ entries, ∃ partner, relation entry partner := by
  induction entries with
  | nil => simp
  | cons entry rest ih =>
      rw [List.forall_mem_cons, ← ih]
      simp only [List.forall₂_cons_left_iff]
      constructor
      · rintro ⟨_, partner, others, related, relatedRest, rfl⟩
        exact ⟨⟨partner, related⟩, others, relatedRest⟩
      · rintro ⟨⟨partner, related⟩, others, relatedRest⟩
        exact ⟨_, partner, others, related, relatedRest, rfl⟩

/-- Lists that correspond to two lists in a row are two such lists in a row. -/
theorem forall₂_append_left_iff {α β : Type} {relation : α → β → Prop} {first second : List α}
    {partners : List β} :
    List.Forall₂ relation (first ++ second) partners ↔
      ∃ before after, List.Forall₂ relation first before ∧ List.Forall₂ relation second after ∧
        partners = before ++ after := by
  induction first generalizing partners with
  | nil => simp
  | cons entry rest ih =>
      simp only [List.cons_append, List.forall₂_cons_left_iff, ih]
      constructor
      · rintro ⟨partner, _, related, ⟨before, after, isBefore, isAfter, rfl⟩, rfl⟩
        exact ⟨_, after, ⟨partner, before, related, isBefore, rfl⟩, isAfter, rfl⟩
      · rintro ⟨_, after, ⟨partner, before, related, isBefore, rfl⟩, isAfter, rfl⟩
        exact ⟨partner, _, related, ⟨before, after, isBefore, isAfter, rfl⟩, rfl⟩

/-- The only entry of a list has a partner if it is kept, else there are none. -/
theorem forall₂_filter_singleton_iff {α β : Type} {relation : α → β → Prop} {keeps : α → Bool}
    {entry : α} {partners : List β} :
    List.Forall₂ relation ([entry].filter keeps) partners ↔
      if keeps entry then ∃ partner, relation entry partner ∧ partners = [partner]
      else partners = [] := by
  cases kept : keeps entry <;> simp [kept, List.forall₂_cons_left_iff]

namespace Outcome

variable {ε ε' α β : Type}

/-- Steps one after the other succeed when each of them does. -/
theorem bind_eq_ok_iff {first : Except ε α} {next : α → Except ε β} {result : β} :
    (first >>= next) = .ok result ↔ ∃ value, first = .ok value ∧ next value = .ok result := by
  cases first <;> simp [bind, Except.bind]

/-- A value by itself is a success with that value. -/
theorem pure_eq_ok_iff {value result : α} :
    (pure value : Except ε α) = .ok result ↔ value = result := by
  simp [pure, Except.pure]

/-- A failure is no success. -/
theorem throw_ne_ok {fault : ε} {result : α} : (throw fault : Except ε α) ≠ .ok result := by
  simp [throw, throwThe, MonadExceptOf.throw]

/-- A refusal before further steps does not happen in a success. -/
theorem refusal_eq_ok_iff {condition : Prop} [Decidable condition] {fault : ε}
    {afterwards : Unit → Except ε α} {further : Except ε α} {result : α} :
    (if condition then (throw fault >>= afterwards : Except ε α) else further) = .ok result ↔
      ¬ condition ∧ further = .ok result := by
  by_cases refused : condition
  · simp [refused, bind, Except.bind, throw, throwThe, MonadExceptOf.throw]
  · simp [refused]

/-- What begins with a failure is no success. -/
theorem throw_bind_ne_ok {fault : ε} {afterwards : β → Except ε α} {result : α} :
    (throw fault >>= afterwards : Except ε α) ≠ .ok result := by
  simp [bind, Except.bind, throw, throwThe, MonadExceptOf.throw]

/-- Other words for the failures change no success. -/
theorem mapError_eq_ok_iff {computed : Except ε α} {reword : ε → ε'} {result : α} :
    computed.mapError reword = .ok result ↔ computed = .ok result := by
  cases computed <;> simp [Except.mapError]

/-- The image of a success is the success of an image. -/
theorem map_eq_ok_iff {computed : Except ε α} {image : α → β} {result : β} :
    image <$> computed = .ok result ↔ ∃ value, computed = .ok value ∧ image value = result := by
  cases computed <;> simp [Functor.map, Except.map]

/-- A list is computed entry by entry. -/
theorem mapM_eq_ok_iff {compute : α → Except ε β} {entries : List α} {results : List β} :
    entries.mapM compute = .ok results ↔
      List.Forall₂ (fun entry result => compute entry = .ok result) entries results := by
  induction entries generalizing results with
  | nil => rw [List.mapM_nil, pure_eq_ok_iff, List.forall₂_nil_left_iff, eq_comm]
  | cons entry rest ih =>
      simp only [List.mapM_cons, bind_eq_ok_iff, pure_eq_ok_iff, ih,
        List.forall₂_cons_left_iff]
      constructor
      · rintro ⟨result, computed, others, computedRest, rfl⟩
        exact ⟨result, others, computed, computedRest, rfl⟩
      · rintro ⟨result, others, computed, computedRest, rfl⟩
        exact ⟨result, computed, others, computedRest, rfl⟩

/-- What is computed for the entries of a list is all that matters. -/
theorem mapM_congr {compute other : α → Except ε β} {entries : List α}
    (same : ∀ entry ∈ entries, compute entry = other entry) :
    entries.mapM compute = entries.mapM other := by
  induction entries with
  | nil => rfl
  | cons entry rest ih =>
      rw [List.forall_mem_cons] at same
      rw [List.mapM_cons, List.mapM_cons, same.1, ih same.2]

/-- A step for each entry of a list succeeds when it succeeds for all of them. -/
theorem forM_eq_ok_iff {step : α → Except ε Unit} {entries : List α} :
    entries.forM step = .ok () ↔ ∀ entry ∈ entries, step entry = .ok () := by
  induction entries with
  | nil => simp [pure_eq_ok_iff]
  | cons entry rest ih =>
      have unfolded : (entry :: rest).forM step = (step entry >>= fun _ => rest.forM step) := rfl
      rw [unfolded, bind_eq_ok_iff, List.forall_mem_cons, ← ih]
      constructor
      · rintro ⟨⟨⟩, first, others⟩
        exact ⟨first, others⟩
      · rintro ⟨first, others⟩
        exact ⟨(), first, others⟩

end Outcome

end NativeBridge
