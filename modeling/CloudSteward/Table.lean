/-!
# Tables

A table has a value for each of finitely many keys, and every key once.  Its
entries stand in the order in which their values were set last; what a key has is
told by `get?`, and the equations below say what each operation does to that.
-/

namespace CloudSteward

/-- Values by their keys. -/
structure Table (κ α : Type) where
  entries : List (κ × α)
  distinct : entries.Pairwise fun first second => first.1 ≠ second.1
deriving DecidableEq

namespace Table

variable {κ α : Type}

def empty : Table κ α := ⟨[], .nil⟩

instance : Inhabited (Table κ α) := ⟨empty⟩

/-- The table with one entry. -/
def single (key : κ) (value : α) : Table κ α :=
  ⟨[(key, value)], List.pairwise_singleton _ _⟩

def keys (table : Table κ α) : List κ :=
  table.entries.map Prod.fst

/-- The entries whose keys satisfy `test`. -/
def keep (table : Table κ α) (test : κ → Bool) : Table κ α where
  entries := table.entries.filter fun entry => test entry.1
  distinct := table.distinct.filter _

theorem keys_keep (table : Table κ α) (test : κ → Bool) :
    (table.keep test).keys = table.keys.filter test := by
  rw [keys, keys, List.filter_map]
  rfl

variable [DecidableEq κ]

/-- The value of a key. -/
def get? (table : Table κ α) (key : κ) : Option α :=
  (table.entries.find? fun entry => entry.1 = key).map Prod.snd

def erase (table : Table κ α) (key : κ) : Table κ α :=
  table.keep fun other => other ≠ key

/-- Sets the value of a key. -/
def put (table : Table κ α) (key : κ) (value : α) : Table κ α where
  entries := (table.erase key).entries ++ [(key, value)]
  distinct := by
    refine List.pairwise_append.mpr ⟨(table.erase key).distinct, List.pairwise_singleton _ _, ?_⟩
    intro first hfirst second hsecond
    have hne : first.1 ≠ key := by simpa using (List.mem_filter.mp hfirst).2
    have heq : second = (key, value) := by simpa using hsecond
    exact heq ▸ hne

@[simp] theorem get?_empty (key : κ) : (empty : Table κ α).get? key = none := rfl

theorem get?_keep (table : Table κ α) (test : κ → Bool) (key : κ) :
    (table.keep test).get? key = if test key then table.get? key else none := by
  unfold get? keep
  simp only [List.find?_filter]
  by_cases hkey : test key = true
  · rw [if_pos hkey]
    congr 2
    funext entry
    by_cases h : entry.1 = key
    · simp [h, hkey]
    · simp [h]
  · rw [if_neg hkey, Option.map_eq_none_iff, List.find?_eq_none]
    intro entry _ h
    simp only [decide_eq_true_eq] at h
    exact hkey (h.2 ▸ h.1)

@[simp] theorem get?_erase_self (table : Table κ α) (key : κ) :
    (table.erase key).get? key = none := by
  simp [erase, get?_keep]

theorem get?_erase_of_ne (table : Table κ α) {key other : κ} (h : other ≠ key) :
    (table.erase key).get? other = table.get? other := by
  simp [erase, get?_keep, h]

@[simp] theorem get?_put_self (table : Table κ α) (key : κ) (value : α) :
    (table.put key value).get? key = some value := by
  have hnone : (table.erase key).get? key = none := get?_erase_self table key
  simp only [get?, Option.map_eq_none_iff] at hnone
  simp [get?, put, List.find?_append, hnone]

theorem get?_put_of_ne (table : Table κ α) {key other : κ} (value : α) (h : other ≠ key) :
    (table.put key value).get? other = table.get? other := by
  have hne : ¬key = other := fun heq => h heq.symm
  rw [← get?_erase_of_ne table h]
  simp [get?, put, List.find?_append, hne]

end Table

end CloudSteward
