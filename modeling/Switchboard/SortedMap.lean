/-!
Finite maps as lists with strictly ascending keys. The order is part of the type, so two maps with
the same lookups are equal, and reading the entries needs no sorting.
-/
namespace Switchboard

structure SortedMap (κ α : Type) [LT κ] where
  entries : List (κ × α) := []
  ascending : entries.Pairwise (·.1 < ·.1) := by exact List.Pairwise.nil
  deriving DecidableEq

namespace SortedMap

variable {κ α : Type}

@[ext] theorem ext [LT κ] {m n : SortedMap κ α} (h : m.entries = n.entries) : m = n := by
  cases m
  cases n
  cases h
  rfl

section Core

variable [LT κ]

def empty : SortedMap κ α := {}

def keys (m : SortedMap κ α) : List κ := m.entries.map (·.1)

def size (m : SortedMap κ α) : Nat := m.entries.length

def get? [DecidableEq κ] (m : SortedMap κ α) (key : κ) : Option α :=
  (m.entries.find? (·.1 = key)).map (·.2)

def contains [DecidableEq κ] (m : SortedMap κ α) (key : κ) : Bool := (m.get? key).isSome

def erase [DecidableEq κ] (m : SortedMap κ α) (key : κ) : SortedMap κ α where
  entries := m.entries.filter (·.1 ≠ key)
  ascending := m.ascending.filter _

theorem ascending_keys (m : SortedMap κ α) : m.keys.Pairwise (· < ·) :=
  List.pairwise_map.2 m.ascending

@[simp] theorem length_keys (m : SortedMap κ α) : m.keys.length = m.size := by
  simp [keys, size]

theorem mem_keys [DecidableEq κ] (m : SortedMap κ α) (key : κ) :
    key ∈ m.keys ↔ (m.get? key).isSome = true := by
  simp [keys, get?]

/-- An erasure removes its own key and no other. -/
theorem get?_erase [DecidableEq κ] (m : SortedMap κ α) (key k : κ) :
    (m.erase key).get? k = if k = key then none else m.get? k := by
  by_cases h : k = key
  · subst h
    simp [get?, erase]
  · simp only [get?, erase, if_neg h, List.find?_filter]
    congr 2
    funext e
    by_cases same : e.1 = k <;> simp [same, h]

end Core

section Insert

variable [LT κ] [DecidableLT κ]

/-- Puts an entry in its place, over an older one with the same key. -/
def insertInto (key : κ) (value : α) : List (κ × α) → List (κ × α)
  | [] => [(key, value)]
  | (k, v) :: rest =>
    if key < k then (key, value) :: (k, v) :: rest
    else if k < key then (k, v) :: insertInto key value rest
    else (key, value) :: rest

private theorem mem_insertInto {key : κ} {value : α} {entries : List (κ × α)} {e : κ × α}
    (h : e ∈ insertInto key value entries) : e = (key, value) ∨ e ∈ entries := by
  induction entries with
  | nil => simpa [insertInto] using h
  | cons head rest ih =>
    obtain ⟨k, v⟩ := head
    simp only [insertInto] at h
    split at h
    · simpa using h
    · split at h
      · rcases List.mem_cons.1 h with rfl | h
        · exact Or.inr List.mem_cons_self
        · exact (ih h).imp id (List.mem_cons_of_mem _)
      · rcases List.mem_cons.1 h with rfl | h
        · exact Or.inl rfl
        · exact Or.inr (List.mem_cons_of_mem _ h)

end Insert

variable [LE κ] [LT κ] [Std.IsLinearOrder κ] [Std.LawfulOrderLT κ] [DecidableLT κ]

theorem ascending_insertInto {key : κ} {value : α} {entries : List (κ × α)}
    (h : entries.Pairwise (·.1 < ·.1)) : (insertInto key value entries).Pairwise (·.1 < ·.1) := by
  induction entries with
  | nil => simp [insertInto]
  | cons head rest ih =>
    obtain ⟨k, v⟩ := head
    obtain ⟨below, ordered⟩ := List.pairwise_cons.1 h
    simp only [insertInto]
    split
    · rename_i first
      refine List.pairwise_cons.2 ⟨fun e he => ?_, h⟩
      rcases List.mem_cons.1 he with rfl | he
      · exact first
      · exact Std.lt_trans first (below e he)
    · split
      · rename_i later
        refine List.pairwise_cons.2 ⟨fun e he => ?_, ih ordered⟩
        rcases mem_insertInto he with rfl | he
        · exact later
        · exact below e he
      · rename_i notBefore notAfter
        have same : key = k := Std.le_antisymm (Std.not_lt.1 notAfter) (Std.not_lt.1 notBefore)
        subst same
        exact List.pairwise_cons.2 ⟨below, ordered⟩

def insert (m : SortedMap κ α) (key : κ) (value : α) : SortedMap κ α where
  entries := insertInto key value m.entries
  ascending := ascending_insertInto m.ascending

/-- An insertion decides its own key and no other. -/
theorem get?_insert [DecidableEq κ] (m : SortedMap κ α) (key k : κ) (value : α) :
    (m.insert key value).get? k = if k = key then some value else m.get? k := by
  have ordered := m.ascending
  simp only [get?, insert]
  generalize m.entries = entries at ordered
  induction entries with
  | nil => by_cases h : k = key <;> simp [insertInto, h, eq_comm]
  | cons head rest ih =>
    obtain ⟨j, v⟩ := head
    obtain ⟨below, ordered⟩ := List.pairwise_cons.1 ordered
    simp only [insertInto]
    split
    · by_cases h : k = key <;> simp [h, eq_comm, List.find?_cons]
    · split
      · rename_i later
        have apart : j ≠ key := fun same => Std.lt_irrefl (same ▸ later)
        by_cases h : j = k
        · subst h
          simp [apart]
        · simpa [h, List.find?_cons] using ih ordered
      · rename_i notBefore notAfter
        have same : key = j := Std.le_antisymm (Std.not_lt.1 notAfter) (Std.not_lt.1 notBefore)
        subst same
        by_cases h : k = key <;> simp [h, eq_comm]

omit [Std.IsLinearOrder κ] [DecidableLT κ] in
private theorem find?_below [DecidableEq κ] {key : κ} {entries : List (κ × α)}
    (below : ∀ e ∈ entries, key < e.1) : entries.find? (·.1 = key) = none := by
  refine List.find?_eq_none.2 fun e he same => ?_
  have later := below e he
  rw [of_decide_eq_true same] at later
  exact Std.lt_irrefl later

omit [DecidableLT κ] in
private theorem eq_of_find? [DecidableEq κ] {m n : List (κ × α)}
    (hm : m.Pairwise (·.1 < ·.1)) (hn : n.Pairwise (·.1 < ·.1))
    (h : ∀ key, (m.find? (·.1 = key)).map (·.2) = (n.find? (·.1 = key)).map (·.2)) : m = n := by
  induction m generalizing n with
  | nil =>
    cases n with
    | nil => rfl
    | cons e n => simpa using h e.1
  | cons d m ih =>
    cases n with
    | nil => simpa using h d.1
    | cons e n =>
      obtain ⟨belowM, hm⟩ := List.pairwise_cons.1 hm
      obtain ⟨belowN, hn⟩ := List.pairwise_cons.1 hn
      have noneBefore {a b : κ × α} {rest : List (κ × α)} (first : a.1 < b.1)
          (below : ∀ x ∈ rest, b.1 < x.1) : (b :: rest).find? (·.1 = a.1) = none :=
        find?_below fun x hx => by
          rcases List.mem_cons.1 hx with rfl | hx
          · exact first
          · exact Std.lt_trans first (below x hx)
      have same : d.1 = e.1 := by
        rcases Std.lt_trichotomy d.1 e.1 with lt | eq | gt
        · have found := h d.1
          rw [noneBefore lt belowN] at found
          simp at found
        · exact eq
        · have found := h e.1
          rw [noneBefore gt belowM] at found
          simp at found
      have value : d.2 = e.2 := by simpa [same] using h d.1
      have rest : m = n := by
        refine ih hm hn fun key => ?_
        by_cases here : e.1 = key
        · subst here
          rw [find?_below (same ▸ belowM), find?_below belowN]
        · simpa [List.find?_cons, same, here] using h key
      rw [Prod.ext same value, rest]

omit [DecidableLT κ] in
/-- A map is what it answers. -/
theorem ext_get? [DecidableEq κ] {m n : SortedMap κ α} (h : ∀ key, m.get? key = n.get? key) :
    m = n :=
  ext (eq_of_find? m.ascending n.ascending h)

end SortedMap

end Switchboard
