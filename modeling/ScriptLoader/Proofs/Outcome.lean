import Mathlib.Data.List.Forall2

/-!
# Outcomes

An outcome is a value or a cause of failure. An outcome that is put together of others is a
value exactly if they are; these lemmas say so for two steps, for a value that is made from
another one, and for the items of a list.
-/

namespace ScriptLoader

/-- What gives a value in two steps gives one in the first. -/
theorem bind_eq_ok {ε α β : Type} {first : Except ε α} {next : α → Except ε β} {value : β} :
    first.bind next = .ok value ↔ ∃ middle, first = .ok middle ∧ next middle = .ok value := by
  cases first <;> simp [Except.bind]

/-- A value that is made from another one is there if the other one is. -/
theorem map_eq_ok {ε α β : Type} {first : Except ε α} {make : α → β} {value : β} :
    make <$> first = .ok value ↔ ∃ middle, first = .ok middle ∧ make middle = value := by
  cases first <;> simp [Functor.map, Except.map]

/-- What can be read off a success comes from a success. -/
theorem exists_ok_of_map_toOption {ε α β : Type} {outcome : Except ε α} {read : α → β}
    {value : β} (reads : outcome.toOption.map read = some value) :
    ∃ result, outcome = .ok result ∧ read result = value := by
  cases outcome with
  | error cause => cases reads
  | ok result => exact ⟨result, rfl, Option.some.inj reads⟩

/-- A list is read if each of its items is. -/
theorem mapM_eq_ok {ε α β : Type} {read : α → Except ε β} {items : List α} {results : List β} :
    items.mapM read = .ok results ↔
      List.Forall₂ (fun item result => read item = .ok result) items results := by
  induction items generalizing results with
  | nil => cases results <;> simp [pure, Except.pure]
  | cons item rest ih =>
    rw [List.mapM_cons]
    cases results with
    | nil =>
      cases read item <;> cases rest.mapM read <;> simp [bind, Except.bind, pure, Except.pure]
    | cons result results =>
      rw [List.forall₂_cons, ← ih]
      cases read item <;> cases rest.mapM read <;> simp [bind, Except.bind, pure, Except.pure]

/-- What is read from a list is read from its items. -/
theorem exists_of_mem_results {α β : Type} {reads : α → β → Prop} {items : List α}
    {results : List β} (related : List.Forall₂ reads items results) :
    ∀ result ∈ results, ∃ item ∈ items, reads item result := by
  induction related with
  | nil => simp
  | cons first _ ih =>
    intro result member
    rcases List.mem_cons.mp member with rfl | later
    · exact ⟨_, List.mem_cons_self .., first⟩
    · obtain ⟨item, among, found⟩ := ih result later
      exact ⟨item, List.mem_cons_of_mem _ among, found⟩

/-- Items can be read together if each of them can be. -/
theorem exists_results_iff {α β : Type} {reads : α → β → Prop} {items : List α} :
    (∃ results, List.Forall₂ reads items results) ↔ ∀ item ∈ items, ∃ result, reads item result := by
  constructor
  · rintro ⟨results, related⟩ item among
    obtain ⟨result, -, found⟩ := exists_of_mem_results related.flip item among
    exact ⟨result, found⟩
  · intro each
    induction items with
    | nil => exact ⟨[], .nil⟩
    | cons item rest ih =>
      obtain ⟨⟨result, found⟩, others⟩ := List.forall_mem_cons.mp each
      obtain ⟨results, related⟩ := ih others
      exact ⟨result :: results, .cons found related⟩

/-- Where an item is read as one thing only, the results are all that can be read from the items. -/
theorem mem_results_iff {α β : Type} {reads : α → β → Prop} {items : List α} {results : List β}
    (related : List.Forall₂ reads items results)
    (unique : ∀ item first second, reads item first → reads item second → first = second)
    {result : β} :
    result ∈ results ↔ ∃ item ∈ items, reads item result := by
  refine ⟨exists_of_mem_results related result, ?_⟩
  rintro ⟨item, among, found⟩
  obtain ⟨other, member, foundToo⟩ := exists_of_mem_results related.flip item among
  exact unique item other result foundToo found ▸ member

end ScriptLoader
