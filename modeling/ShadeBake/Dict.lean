/-! Finite maps from names to values, held as one list sorted strictly by name. -/

namespace ShadeBake

/-- A map from names to values whose entries are listed once each, in name order. -/
structure Dict (α : Type) where
  entries : List (String × α)
  sorted : entries.Pairwise (fun a b => a.1 < b.1)

namespace Dict

variable {α β : Type}

/-- Equality of maps is equality of their entry lists. -/
theorem ext {a b : Dict α} (same : a.entries = b.entries) : a = b := by
  cases a; cases b; cases same; rfl

instance [DecidableEq α] : DecidableEq (Dict α) := fun a b =>
  if same : a.entries = b.entries then
    .isTrue (ext same)
  else
    .isFalse (fun equal => same (by rw [equal]))

/-- The map with no entries. -/
def empty : Dict α := ⟨[], .nil⟩

instance : EmptyCollection (Dict α) := ⟨empty⟩

instance : Inhabited (Dict α) := ⟨empty⟩

/-- The value listed under a name. -/
def lookup (name : String) : List (String × α) → Option α
  | [] => none
  | (key, value) :: rest => if key = name then some value else lookup name rest

/-- The value a map holds under a name. -/
def get? (dict : Dict α) (name : String) : Option α :=
  lookup name dict.entries

/-- A map contains a name when it holds a value under it. -/
def contains (dict : Dict α) (name : String) : Bool :=
  (dict.get? name).isSome

/-- The names of a map, in order. -/
def keys (dict : Dict α) : List String :=
  dict.entries.map (·.1)

/-- Nothing is listed under a name that is not among the names of a list. -/
theorem lookup_eq_none {name : String} {list : List (String × α)}
    (absent : name ∉ list.map (·.1)) : lookup name list = none := by
  induction list with
  | nil => rfl
  | cons head rest ih =>
    -- Neither the first name nor a later one is the one looked for.
    simp only [List.map_cons, List.mem_cons, not_or] at absent
    simp only [lookup]
    rw [if_neg fun same => absent.1 same.symm]
    exact ih absent.2

/-- A map holds nothing under a name that is not one of its names. -/
theorem get?_eq_none {dict : Dict α} {name : String} (absent : name ∉ dict.keys) :
    dict.get? name = none :=
  -- The keys are those of the entries that the look-up searches.
  lookup_eq_none absent

/-- The values of a map, in the order of their names. -/
def values (dict : Dict α) : List α :=
  dict.entries.map (·.2)

/-- The number of entries. -/
def size (dict : Dict α) : Nat :=
  dict.entries.length

/-- A map is empty when it has no entry. -/
def isEmpty (dict : Dict α) : Bool :=
  dict.entries.isEmpty

/-- Put one entry at its place in a sorted list, in the stead of an entry of the same name. -/
def place (name : String) (value : α) : List (String × α) → List (String × α)
  | [] => [(name, value)]
  | (key, old) :: rest =>
    -- The first name that is not smaller marks the place.
    if name < key then (name, value) :: (key, old) :: rest
    else if name = key then (name, value) :: rest
    else (key, old) :: place name value rest

/-- A placed list holds the new entry and entries of the old list. -/
theorem mem_place {name : String} {value : α} {entry : String × α} {list : List (String × α)}
    (member : entry ∈ place name value list) : entry = (name, value) ∨ entry ∈ list := by
  induction list with
  | nil => simpa [place] using member
  | cons head rest ih =>
    simp only [place] at member
    split at member
    -- In front of a larger name the old list stays whole.
    · simpa using member
    · split at member
      · rcases List.mem_cons.1 member with same | old
        · exact .inl same
        · exact .inr (List.mem_cons_of_mem _ old)
      · rcases List.mem_cons.1 member with same | old
        · exact .inr (by simp [same])
        -- Behind a smaller name the entry is placed in the rest.
        · rcases ih old with new | older
          · exact .inl new
          · exact .inr (List.mem_cons_of_mem _ older)

/-- Names are compared by a linear order: a name neither above nor at another is below it. -/
theorem lt_of_not_lt_of_ne {a b : String} (above : ¬a < b) (apart : a ≠ b) : b < a := by
  -- Were it not below, both comparisons would hold weakly and the names agree.
  apply Decidable.byContradiction
  intro below
  exact apart (String.le_antisymm (String.not_lt.1 below) (String.not_lt.1 above))

/-- Placing an entry keeps the names in strict order. -/
theorem place_sorted (name : String) (value : α) {list : List (String × α)}
    (sorted : list.Pairwise (fun a b => a.1 < b.1)) :
    (place name value list).Pairwise (fun a b => a.1 < b.1) := by
  induction list with
  | nil => simp [place]
  | cons head rest ih =>
    rw [List.pairwise_cons] at sorted
    simp only [place]
    split
    -- In front of a larger name: all names behind that one are larger still.
    · rename_i before
      refine List.pairwise_cons.2 ⟨fun entry member => ?_, List.pairwise_cons.2 sorted⟩
      rcases List.mem_cons.1 member with same | later
      · simpa [same] using before
      · exact String.lt_trans before (sorted.1 entry later)
    · split
      -- In the stead of the same name: the names do not change.
      · rename_i same
        subst same
        exact List.pairwise_cons.2 ⟨sorted.1, sorted.2⟩
      -- Behind a smaller name: that name is below the new one and below all old ones.
      · rename_i above apart
        refine List.pairwise_cons.2 ⟨fun entry member => ?_, ih sorted.2⟩
        rcases mem_place member with new | old
        · simpa [new] using lt_of_not_lt_of_ne above apart
        · exact sorted.1 entry old

/-- The map that holds a value under a name and agrees with the given one elsewhere. -/
def insert (dict : Dict α) (name : String) (value : α) : Dict α :=
  ⟨place name value dict.entries, place_sorted name value dict.sorted⟩

/-- The map without a name. -/
def erase (dict : Dict α) (name : String) : Dict α :=
  ⟨dict.entries.filter (·.1 ≠ name), dict.sorted.filter _⟩

/-- The map with the value under one name changed, if it is there. -/
def modify (dict : Dict α) (name : String) (change : α → α) : Dict α :=
  match dict.get? name with
  | some value => dict.insert name (change value)
  | none => dict

/-- The map of a list of entries; of entries with one name the last counts. -/
def ofList (entries : List (String × α)) : Dict α :=
  entries.foldl (fun dict entry => dict.insert entry.1 entry.2) empty

/-- The map of a list of entries; of entries with one name the first counts. -/
def ofListFirst (entries : List (String × α)) : Dict α :=
  entries.foldl
    (fun dict entry => if dict.contains entry.1 then dict else dict.insert entry.1 entry.2) empty

/-- The map with every value changed by its name. -/
def mapWithKey (dict : Dict α) (change : String → α → β) : Dict β :=
  ⟨dict.entries.map (fun entry => (entry.1, change entry.1 entry.2)), by
    rw [List.pairwise_map]
    exact dict.sorted⟩

end Dict

/-- A set of names: a map that holds nothing under them. -/
abbrev NameSet := Dict Unit

namespace NameSet

/-- The set with one more name. -/
def add (names : NameSet) (name : String) : NameSet :=
  Dict.insert names name ()

/-- The set of the names in a list. -/
def ofList (names : List String) : NameSet :=
  names.foldl add Dict.empty

/-- The names that are in either set. -/
def union (names others : NameSet) : NameSet :=
  others.keys.foldl add names

end NameSet

end ShadeBake
