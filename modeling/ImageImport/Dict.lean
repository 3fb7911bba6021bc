/-
# Dictionaries with text keys

A dictionary is a list of entries in strictly increasing order of their keys.  The order is part of
the type, so two dictionaries with the same entries are equal, and "in key order" needs no further
word anywhere else.  Keys are ordered by their characters, which for text is also the order of its
encoded bytes.
-/

namespace ImageImport

/-- Entries in strictly increasing order of their keys. -/
structure Dict (α : Type) where
  entries : List (String × α)
  sorted : entries.Pairwise fun a b => a.1 < b.1
  deriving DecidableEq

namespace Dict

variable {α β : Type}

/-! ## 1. Entries -/

/-- Put an entry where it belongs, in place of one with the same key. -/
def insertEntry (key : String) (value : α) : List (String × α) → List (String × α)
  | [] => [(key, value)]
  | (k, v) :: rest =>
    if key < k then (key, value) :: (k, v) :: rest
    else if k < key then (k, v) :: insertEntry key value rest
    else (key, value) :: rest

theorem mem_insertEntry {key : String} {value : α} {es : List (String × α)} {e : String × α}
    (h : e ∈ insertEntry key value es) : e = (key, value) ∨ e ∈ es := by
  induction es with
  | nil => exact .inl (List.mem_singleton.mp h)
  | cons kv rest ih =>
    obtain ⟨k, v⟩ := kv
    simp only [insertEntry] at h
    split at h
    · exact List.mem_cons.mp h
    · split at h
      · rcases List.mem_cons.mp h with rfl | h
        · exact .inr (List.mem_cons_self ..)
        · exact (ih h).imp_right (List.mem_cons_of_mem _)
      · rcases List.mem_cons.mp h with rfl | h
        · exact .inl rfl
        · exact .inr (List.mem_cons_of_mem _ h)

theorem eq_of_not_lt {a b : String} (h : ¬ a < b) (h' : ¬ b < a) : a = b :=
  String.le_antisymm (String.not_lt.mp h') (String.not_lt.mp h)

theorem sorted_insertEntry {key : String} {value : α} {es : List (String × α)}
    (h : es.Pairwise fun a b => a.1 < b.1) :
    (insertEntry key value es).Pairwise fun a b => a.1 < b.1 := by
  induction es with
  | nil => exact List.pairwise_singleton _ _
  | cons kv rest ih =>
    obtain ⟨k, v⟩ := kv
    have hrest := List.pairwise_cons.mp h
    simp only [insertEntry]
    split
    next hlt =>
      refine List.pairwise_cons.mpr ⟨fun e he => ?_, h⟩
      rcases List.mem_cons.mp he with rfl | he
      · exact hlt
      · exact String.lt_trans hlt (hrest.1 e he)
    next hnlt =>
      split
      next hlt =>
        refine List.pairwise_cons.mpr ⟨fun e he => ?_, ih hrest.2⟩
        rcases mem_insertEntry he with rfl | he
        · exact hlt
        · exact hrest.1 e he
      next hnlt' =>
        have hk : key = k := eq_of_not_lt hnlt hnlt'
        exact List.pairwise_cons.mpr ⟨fun e he => hk ▸ hrest.1 e he, hrest.2⟩

/-! ## 2. The operations -/

/-- No entry. -/
def empty : Dict α := ⟨[], List.Pairwise.nil⟩

instance : Inhabited (Dict α) := ⟨empty⟩

/-- The value under a key. -/
def find? (d : Dict α) (key : String) : Option α :=
  (d.entries.find? fun e => e.1 == key).map (·.2)

/-- Is there an entry under the key? -/
def contains (d : Dict α) (key : String) : Bool := d.entries.any fun e => e.1 == key

/-- Set the value under a key. -/
def insert (d : Dict α) (key : String) (value : α) : Dict α :=
  ⟨insertEntry key value d.entries, sorted_insertEntry d.sorted⟩

/-- Take the entry under a key away. -/
def erase (d : Dict α) (key : String) : Dict α :=
  ⟨d.entries.filter fun e => e.1 != key, d.sorted.filter _⟩

/-- The keys in order. -/
def keys (d : Dict α) : List String := d.entries.map (·.1)

/-- No entry at all? -/
def isEmpty (d : Dict α) : Bool := d.entries.isEmpty

/-- Entries put in one after the other; of two under one key the later one stays. -/
def ofList (es : List (String × α)) : Dict α := es.foldl (fun d e => d.insert e.1 e.2) empty

/-- Every entry of `e`, put over those of `d`. -/
def extend (d e : Dict α) : Dict α := e.entries.foldl (fun d kv => d.insert kv.1 kv.2) d

/-- The same keys with other values. -/
def map (f : α → β) (d : Dict α) : Dict β :=
  ⟨d.entries.map fun e => (e.1, f e.2), List.pairwise_map.mpr d.sorted⟩

theorem keys_map (f : α → β) (d : Dict α) : (d.map f).keys = d.keys := by
  simp only [keys, map, List.map_map]; rfl

/-! ## 3. What is found -/

theorem keys_sorted (d : Dict α) : d.keys.Pairwise (· < ·) := List.pairwise_map.mpr d.sorted

theorem keys_nodup (d : Dict α) : d.keys.Nodup :=
  d.keys_sorted.imp String.ne_of_lt

@[simp] theorem contains_iff (d : Dict α) (key : String) : d.contains key = true ↔ key ∈ d.keys := by
  simp [contains, keys]

/-- Nothing is found under a key that no entry has. -/
theorem find?_entry_eq_none_iff {es : List (String × α)} {key : String} :
    (es.find? fun e => e.1 == key) = none ↔ key ∉ es.map (·.1) := by
  simp only [List.find?_eq_none, beq_iff_eq, List.mem_map, not_exists, not_and]

/-- **What is found under a key is its entry**, where no key occurs twice. -/
theorem find?_entry_eq_some_iff {es : List (String × α)} (hnodup : (es.map (·.1)).Nodup)
    {key : String} {value : α} :
    (es.find? fun e => e.1 == key).map (·.2) = some value ↔ (key, value) ∈ es := by
  induction es with
  | nil => simp
  | cons e rest ih =>
    obtain ⟨k, v⟩ := e
    obtain ⟨hk, hrest⟩ := List.nodup_cons.mp hnodup
    by_cases heq : k = key
    · subst heq
      have hnot : (k, value) ∉ rest := fun h => hk (List.mem_map.mpr ⟨_, h, rfl⟩)
      simp [hnot, eq_comm]
    · have hne : (key, value) ≠ (k, v) := fun h => heq (Prod.mk.inj h).1.symm
      simpa [List.find?_cons, heq, hne] using ih hrest

theorem find?_eq_some_iff {d : Dict α} {key : String} {value : α} :
    d.find? key = some value ↔ (key, value) ∈ d.entries :=
  find?_entry_eq_some_iff d.keys_nodup

theorem find?_eq_none_iff {d : Dict α} {key : String} : d.find? key = none ↔ key ∉ d.keys := by
  rw [find?, Option.map_eq_none_iff, find?_entry_eq_none_iff]
  rfl

end Dict

end ImageImport
