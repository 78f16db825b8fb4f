import Mathlib.Data.List.Forall2

/-! What a computation that may fail has done when it succeeds. -/

namespace ShadeBake

variable {ε α β : Type}

/-- A sequence of two computations succeeds when the first does and then the second. -/
theorem ok_of_bind {first : Except ε α} {second : α → Except ε β} {result : β}
    (succeeds : (first >>= second) = .ok result) : ∃ a, first = .ok a ∧ second a = .ok result := by
  -- A first computation that fails would be the failure of the whole.
  cases first with
  | error cause => simp [bind, Except.bind] at succeeds
  | ok a => exact ⟨a, rfl, succeeds⟩

/-- A computation with a result succeeds. -/
theorem ok_of_isSome {result : Except ε α} (isSome : result.toOption.isSome = true) :
    ∃ a, result = .ok a := by
  -- A failure has no result.
  cases result with
  | error cause => simp [Except.toOption] at isSome
  | ok a => exact ⟨a, rfl⟩

/-- A computation whose result has a view succeeds, and its result has that view. -/
theorem ok_of_map_toOption {result : Except ε α} {view : α → β} {b : β}
    (viewed : result.toOption.map view = some b) : ∃ a, result = .ok a ∧ view a = b := by
  -- A failure has no result that could be viewed.
  cases result with
  | error cause => simp [Except.toOption] at viewed
  | ok a => exact ⟨a, rfl, Option.some.inj viewed⟩

/-- A computation fails exactly if it has no result. -/
theorem exists_error_iff {result : Except ε α} : (∃ cause, result = .error cause) ↔ ∀ a, result ≠ .ok a := by
  -- There are only the two outcomes.
  cases result with
  | error cause => simp
  | ok a => simp

/-- A computation on the elements of a list succeeds with one result for each, in their order. -/
theorem forall₂_of_mapM {work : α → Except ε β} {list : List α} {results : List β}
    (succeeds : list.mapM work = .ok results) : List.Forall₂ (fun a b => work a = .ok b) list results := by
  induction list generalizing results with
  | nil =>
    simp only [List.mapM_nil, pure, Except.pure, Except.ok.injEq] at succeeds
    subst succeeds
    exact .nil
  | cons head rest ih =>
    rw [List.mapM_cons] at succeeds
    -- The head comes first, then the rest, and nothing fails between them.
    obtain ⟨b, one, work⟩ := ok_of_bind succeeds
    obtain ⟨others, all, done⟩ := ok_of_bind work
    simp only [pure, Except.pure, Except.ok.injEq] at done
    subst done
    exact .cons one (ih all)

/-- A computation on the elements of a list succeeds exactly with one result for each, in their order. -/
theorem mapM_eq_ok_iff {work : α → Except ε β} {list : List α} {results : List β} :
    list.mapM work = .ok results ↔ List.Forall₂ (fun a b => work a = .ok b) list results := by
  constructor
  · exact forall₂_of_mapM
  · intro each
    -- The head succeeds first, and the rest behind it.
    induction each with
    | nil => rfl
    | cons one _ ih => simp only [List.mapM_cons, one, ih, bind, Except.bind, pure, Except.pure]

/-- What each step of a computation over a list keeps, the whole computation keeps. -/
theorem holds_of_foldlM {work : β → α → Except ε β} {holds : β → Prop} {list : List α} {start result : β}
    (starts : holds start) (keeps : ∀ a ∈ list, ∀ b c, holds b → work b a = .ok c → holds c)
    (succeeds : list.foldlM work start = .ok result) : holds result := by
  induction list generalizing start with
  | nil =>
    simp only [List.foldlM_nil, pure, Except.pure, Except.ok.injEq] at succeeds
    exact succeeds ▸ starts
  | cons head rest ih =>
    rw [List.foldlM_cons] at succeeds
    obtain ⟨next, one, later⟩ := ok_of_bind succeeds
    -- The head leaves what the rest starts from.
    exact ih (keeps head List.mem_cons_self start next starts one)
      (fun a inside => keeps a (List.mem_cons_of_mem _ inside)) later

/-- A choice of one result for each element of a list succeeds exactly with such results, in their order. -/
theorem mapM_eq_some_iff {choose : α → Option β} {list : List α} {results : List β} :
    list.mapM choose = some results ↔ List.Forall₂ (fun a b => choose a = some b) list results := by
  -- The head is chosen first and then the rest, so the list of results is cut likewise.
  induction list generalizing results with
  | nil =>
    rw [List.mapM_nil, List.forall₂_nil_left_iff]
    exact Option.some_inj.trans eq_comm
  | cons head rest ih =>
    rw [List.mapM_cons, List.forall₂_cons_left_iff]
    constructor
    · intro chosen
      obtain ⟨b, one, later⟩ := Option.bind_eq_some_iff.1 chosen
      obtain ⟨others, all, done⟩ := Option.bind_eq_some_iff.1 later
      cases done
      exact ⟨b, others, one, ih.1 all, rfl⟩
    -- With the head and the rest chosen the whole list is.
    · rintro ⟨b, others, one, all, rfl⟩
      exact Option.bind_eq_some_iff.2
        ⟨b, one, Option.bind_eq_some_iff.2 ⟨others, ih.2 all, rfl⟩⟩

/-- A choice of one result for each element of a list has as many as there are elements. -/
theorem length_of_mapM {choose : α → Option β} {list : List α} {results : List β}
    (chosen : list.mapM choose = some results) : list.length = results.length :=
  -- Each element has its own result.
  (mapM_eq_some_iff.1 chosen).length_eq

/-- Of two lists related element by element, each element of the second belongs to one of the first. -/
theorem exists_of_forall₂ {relation : α → β → Prop} {list : List α} {results : List β}
    (related : List.Forall₂ relation list results) {b : β} (inside : b ∈ results) :
    ∃ a ∈ list, relation a b := by
  -- The result is that of the head or of an element behind it.
  induction related with
  | nil => simp at inside
  | cons here later ih =>
    rcases List.mem_cons.1 inside with same | behind
    · exact ⟨_, List.mem_cons_self, same ▸ here⟩
    · obtain ⟨a, member, there⟩ := ih behind
      exact ⟨a, List.mem_cons_of_mem _ member, there⟩

/-- A computation that succeeds on each element of a list succeeds on the list. -/
theorem exists_mapM {work : α → Except ε β} {list : List α}
    (succeeds : ∀ a ∈ list, ∃ b, work a = .ok b) : ∃ results, list.mapM work = .ok results := by
  -- Each element succeeds on its own, and nothing else can fail.
  induction list with
  | nil => exact ⟨[], rfl⟩
  | cons head rest ih =>
    obtain ⟨b, one⟩ := succeeds head List.mem_cons_self
    obtain ⟨others, all⟩ := ih fun a inside => succeeds a (List.mem_cons_of_mem _ inside)
    exact ⟨b :: others, by simp only [List.mapM_cons, one, all, bind, Except.bind, pure, Except.pure]⟩

end ShadeBake
