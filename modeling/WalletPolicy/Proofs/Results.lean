namespace WalletPolicy

variable {Cause Item Value Result : Type}

theorem bind_eq_ok_iff {first : Except Cause Value} {next : Value → Except Cause Result}
    {result : Result} :
    first >>= next = .ok result ↔ ∃ value, first = .ok value ∧ next value = .ok result := by
  cases first <;> simp [bind, Except.bind]

theorem map_eq_ok_iff {first : Except Cause Value} {change : Value → Result} {result : Result} :
    change <$> first = .ok result ↔ ∃ value, first = .ok value ∧ change value = result := by
  cases first <;> simp [Functor.map, Except.map]

section Lists

variable {work : Item → Except Cause Value} {items : List Item}

theorem mapM_eq_ok_iff {values : List Value} :
    items.mapM work = .ok values ↔ items.map work = values.map .ok := by
  induction items generalizing values with
  | nil => cases values <;> simp [pure, Except.pure]
  | cons item items ih =>
      rw [List.mapM_cons, bind_eq_ok_iff]
      simp only [bind_eq_ok_iff, ih, pure, Except.pure, Except.ok.injEq]
      cases values with
      | nil => simp
      | cons value values =>
          constructor
          · rintro ⟨_, done, _, others, same⟩
            obtain ⟨rfl, rfl⟩ := List.cons.inj same
            simp [done, others]
          · intro all
            obtain ⟨done, others⟩ := List.cons.inj all
            exact ⟨value, done, values, others, rfl⟩

theorem exists_mapM_eq_ok (each : ∀ item ∈ items, ∃ value, work item = .ok value) :
    ∃ values, items.mapM work = .ok values := by
  simp only [mapM_eq_ok_iff]
  induction items with
  | nil => exact ⟨[], rfl⟩
  | cons item items ih =>
      obtain ⟨value, done⟩ := each item List.mem_cons_self
      obtain ⟨values, others⟩ := ih fun other member => each other (List.mem_cons_of_mem _ member)
      exact ⟨value :: values, by rw [List.map_cons, List.map_cons, done, others]⟩

theorem mem_of_mapM_eq_ok {values : List Value} (worked : items.mapM work = .ok values)
    {value : Value} : value ∈ values ↔ ∃ item ∈ items, work item = .ok value := by
  rw [← List.mem_map, mapM_eq_ok_iff.1 worked, List.mem_map]
  simp

end Lists

end WalletPolicy
