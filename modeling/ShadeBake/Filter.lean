/-! Counting what a filter keeps, and finding what has a name. -/

namespace ShadeBake

/-- A filter that also refuses a kept element keeps fewer. -/
theorem length_filter_lt {α : Type} {weak strong : α → Bool} {list : List α}
    (implied : ∀ a ∈ list, strong a = true → weak a = true) {a : α} (member : a ∈ list)
    (kept : weak a = true) (refused : strong a = false) :
    (list.filter strong).length < (list.filter weak).length := by
  -- The lengths are counts, which a single element changes by at most one.
  rw [← List.countP_eq_length_filter, ← List.countP_eq_length_filter]
  induction list with
  | nil => simp at member
  | cons head rest ih =>
    have below : rest.countP strong ≤ rest.countP weak :=
      List.countP_mono_left fun b inside => implied b (List.mem_cons_of_mem _ inside)
    rw [List.countP_cons, List.countP_cons]
    rcases List.mem_cons.1 member with rfl | inside
    -- The refused element comes first and counts on one side only.
    · simp only [kept, refused]
      simp
      omega
    -- It comes later, and the first element counts no more on the strong side.
    · have less := ih (fun b inside => implied b (List.mem_cons_of_mem _ inside)) inside
      have head_implied := implied head List.mem_cons_self
      by_cases strongHead : strong head = true
      · simp only [strongHead, head_implied strongHead, if_true]
        omega
      · simp only [strongHead]
        simp
        omega

/-- Where no two elements of a list have one name, the first of a name is the one that has it. -/
theorem find?_eq_some_iff_of_nodup {α β : Type} [DecidableEq β] {name : α → β} {list : List α}
    (distinct : (list.map name).Nodup) {b : β} {a : α} :
    list.find? (name · = b) = some a ↔ a ∈ list ∧ name a = b := by
  -- The head either has the name, and then no later element has, or it is passed over.
  induction list with
  | nil => simp
  | cons head rest ih =>
    rw [List.map_cons, List.nodup_cons] at distinct
    rw [List.find?_cons]
    by_cases same : name head = b
    -- The first element has the name, so no later one does.
    · simp only [same, decide_true, Option.some.injEq, List.mem_cons]
      constructor
      · rintro rfl
        exact ⟨.inl rfl, same⟩
      · rintro ⟨rfl | later, named⟩
        · rfl
        · exact absurd (List.mem_map.2 ⟨a, later, named.trans same.symm⟩) distinct.1
    · simp only [same, decide_false, ih distinct.2, List.mem_cons]
      constructor
      · rintro ⟨later, named⟩
        exact ⟨.inr later, named⟩
      · rintro ⟨rfl | later, named⟩
        · exact absurd named same
        · exact ⟨later, named⟩

/-- Where no two elements of a list have one name, their order makes no difference to what is found. -/
theorem find?_perm_of_nodup {α β : Type} [DecidableEq β] {name : α → β} {list other : List α}
    (distinct : (list.map name).Nodup) (reordered : list.Perm other) (b : β) :
    list.find? (name · = b) = other.find? (name · = b) := by
  have distinct' : (other.map name).Nodup := (reordered.map name).nodup_iff.1 distinct
  -- In either order the element that has the name is found.
  apply Option.ext
  intro a
  rw [find?_eq_some_iff_of_nodup distinct, find?_eq_some_iff_of_nodup distinct', reordered.mem_iff]

end ShadeBake
