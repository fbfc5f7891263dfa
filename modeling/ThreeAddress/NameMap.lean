/-!
Finite maps keyed by names. The entries stand in strictly ascending order of name, which makes the
representation canonical: maps that agree on every lookup are equal, and a listing of the entries
is already sorted.
-/

namespace ThreeAddress

structure NameMap (α : Type) where
  entries : List (String × α)
  ordered : entries.Pairwise fun left right => left.1 < right.1
  deriving DecidableEq

namespace NameMap

variable {α : Type}

def empty : NameMap α := ⟨[], .nil⟩

instance : EmptyCollection (NameMap α) := ⟨empty⟩

instance : Inhabited (NameMap α) := ⟨empty⟩

def find? (map : NameMap α) (name : String) : Option α := map.entries.lookup name

def contains (map : NameMap α) (name : String) : Bool := (map.find? name).isSome

def size (map : NameMap α) : Nat := map.entries.length

def isEmpty (map : NameMap α) : Bool := map.entries.isEmpty

def names (map : NameMap α) : List String := map.entries.map Prod.fst

/-- Places an entry before the first greater name and replaces an equal one. -/
def insertEntry (name : String) (value : α) : List (String × α) → List (String × α)
  | [] => [(name, value)]
  | (other, held) :: rest =>
      if name < other then (name, value) :: (other, held) :: rest
      else if name = other then (name, value) :: rest
      else (other, held) :: insertEntry name value rest

theorem mem_insert_entry {name : String} {value : α} {entries : List (String × α)}
    {entry : String × α} (member : entry ∈ insertEntry name value entries) :
    entry = (name, value) ∨ entry ∈ entries := by
  induction entries with
  | nil => simpa [insertEntry] using member
  | cons head rest induction =>
      obtain ⟨other, held⟩ := head
      simp only [insertEntry] at member
      split at member
      · simpa using member
      · split at member
        · rcases List.mem_cons.1 member with same | inside
          · exact .inl same
          · exact .inr (List.mem_cons_of_mem _ inside)
        · rcases List.mem_cons.1 member with same | inside
          · exact .inr (same ▸ List.mem_cons_self)
          · rcases induction inside with same | later
            · exact .inl same
            · exact .inr (List.mem_cons_of_mem _ later)

theorem name_lt_of_not_lt {left right : String} (notLess : ¬ left < right)
    (different : left ≠ right) : right < left := by
  rcases String.le_total left right with lower | upper
  · exact absurd (String.le_antisymm lower (String.not_lt.1 notLess)) different
  · exact String.not_le.1 fun lower => different (String.le_antisymm lower upper)

theorem insert_entry_ordered (name : String) (value : α) (entries : List (String × α))
    (ordered : entries.Pairwise fun left right => left.1 < right.1) :
    (insertEntry name value entries).Pairwise fun left right => left.1 < right.1 := by
  induction entries with
  | nil => simp [insertEntry]
  | cons head rest induction =>
      obtain ⟨other, held⟩ := head
      have above := (List.pairwise_cons.1 ordered).1
      have restOrdered := (List.pairwise_cons.1 ordered).2
      simp only [insertEntry]
      split
      · rename_i less
        refine List.pairwise_cons.2 ⟨?_, ordered⟩
        intro entry member
        rcases List.mem_cons.1 member with same | inside
        · rw [same]
          exact less
        · exact String.lt_trans less (above entry inside)
      · rename_i notLess
        split
        · rename_i same
          exact List.pairwise_cons.2 ⟨by rw [same]; exact above, restOrdered⟩
        · rename_i different
          refine List.pairwise_cons.2 ⟨?_, induction restOrdered⟩
          intro entry member
          rcases mem_insert_entry member with same | inside
          · rw [same]
            exact name_lt_of_not_lt notLess different
          · exact above entry inside

def insert (map : NameMap α) (name : String) (value : α) : NameMap α :=
  ⟨insertEntry name value map.entries, insert_entry_ordered name value map.entries map.ordered⟩

/-- The map of the given pairs; of two pairs with one name the later counts. -/
def ofList (pairs : List (String × α)) : NameMap α :=
  pairs.foldl (fun map pair => map.insert pair.1 pair.2) empty

@[simp] theorem find_empty (name : String) : (empty : NameMap α).find? name = none := rfl

theorem lookup_cons_ne {name key : String} (value : α) (entries : List (String × α))
    (different : key ≠ name) : ((name, value) :: entries).lookup key = entries.lookup key := by
  simp [List.lookup_cons, beq_false_of_ne different]

theorem lookup_insert_entry (name key : String) (value : α) (entries : List (String × α)) :
    (insertEntry name value entries).lookup key =
      if key = name then some value else entries.lookup key := by
  induction entries with
  | nil =>
      by_cases same : key = name
      · simp [insertEntry, same]
      · simp [insertEntry, lookup_cons_ne value [] same, same]
  | cons head rest induction =>
      obtain ⟨other, held⟩ := head
      simp only [insertEntry]
      split
      · by_cases same : key = name
        · simp [same]
        · rw [lookup_cons_ne value _ same, if_neg same]
      · split
        · rename_i equal
          subst equal
          by_cases same : key = name
          · simp [same]
          · rw [lookup_cons_ne value _ same, if_neg same, lookup_cons_ne held _ same]
        · rename_i different
          by_cases same : key = other
          · subst same
            simp [Ne.symm different]
          · rw [lookup_cons_ne held _ same, lookup_cons_ne held _ same, induction]

theorem find_insert (map : NameMap α) (name key : String) (value : α) :
    (map.insert name value).find? key = if key = name then some value else map.find? key :=
  lookup_insert_entry name key value map.entries

@[simp] theorem find_insert_self (map : NameMap α) (name : String) (value : α) :
    (map.insert name value).find? name = some value := by
  simp [find_insert]

theorem find_insert_of_ne (map : NameMap α) {name key : String} (value : α)
    (different : key ≠ name) : (map.insert name value).find? key = map.find? key := by
  simp [find_insert, different]

theorem lookup_eq_some_iff {entries : List (String × α)}
    (ordered : entries.Pairwise fun left right => left.1 < right.1) {name : String} {value : α} :
    entries.lookup name = some value ↔ (name, value) ∈ entries := by
  induction entries with
  | nil => simp
  | cons head rest induction =>
      obtain ⟨other, held⟩ := head
      have above := (List.pairwise_cons.1 ordered).1
      have later := induction (List.pairwise_cons.1 ordered).2
      by_cases same : name = other
      · subst same
        constructor
        · intro found
          simp only [List.lookup_cons, beq_self_eq_true, Option.some.injEq] at found
          simp [found]
        · intro member
          rcases List.mem_cons.1 member with equal | inside
          · simp [Prod.mk.inj equal]
          · exact absurd (above _ inside) (String.lt_irrefl name)
      · rw [lookup_cons_ne held _ same, later]
        simp [same]

theorem find_eq_some_iff (map : NameMap α) {name : String} {value : α} :
    map.find? name = some value ↔ (name, value) ∈ map.entries :=
  lookup_eq_some_iff map.ordered

theorem entries_eq_of_mem_iff {left right : List (String × α)}
    (leftOrdered : left.Pairwise fun first second => first.1 < second.1)
    (rightOrdered : right.Pairwise fun first second => first.1 < second.1)
    (same : ∀ entry, entry ∈ left ↔ entry ∈ right) : left = right := by
  induction left generalizing right with
  | nil =>
      cases right with
      | nil => rfl
      | cons head rest => exact absurd ((same head).2 List.mem_cons_self) (by simp)
  | cons head rest induction =>
      cases right with
      | nil => exact absurd ((same head).1 List.mem_cons_self) (by simp)
      | cons other others =>
          have above := (List.pairwise_cons.1 leftOrdered).1
          have otherAbove := (List.pairwise_cons.1 rightOrdered).1
          have equal : head = other := by
            rcases List.mem_cons.1 ((same head).1 List.mem_cons_self) with equal | inside
            · exact equal
            · rcases List.mem_cons.1 ((same other).2 List.mem_cons_self) with equal | outside
              · exact equal.symm
              · exact absurd (otherAbove _ inside) (String.lt_asymm (above _ outside))
          subst equal
          congr 1
          refine induction (List.pairwise_cons.1 leftOrdered).2
            (List.pairwise_cons.1 rightOrdered).2 fun entry => ⟨fun member => ?_, fun member => ?_⟩
          · rcases List.mem_cons.1 ((same entry).1 (List.mem_cons_of_mem _ member)) with equal | inside
            · exact absurd (above _ member) (by simp [equal])
            · exact inside
          · rcases List.mem_cons.1 ((same entry).2 (List.mem_cons_of_mem _ member)) with equal | inside
            · exact absurd (otherAbove _ member) (by simp [equal])
            · exact inside

/-- Maps with the same lookups are the same map. -/
theorem ext_find {left right : NameMap α}
    (agree : ∀ name, left.find? name = right.find? name) : left = right := by
  have entries : left.entries = right.entries := by
    refine entries_eq_of_mem_iff left.ordered right.ordered fun entry => ?_
    rw [← find_eq_some_iff left, ← find_eq_some_iff right, agree]
  cases left
  cases right
  cases entries
  rfl

theorem insert_insert (map : NameMap α) (name : String) (first second : α) :
    (map.insert name first).insert name second = map.insert name second := by
  apply ext_find
  intro key
  simp only [find_insert]
  split <;> rfl

end NameMap

end ThreeAddress
