/-!
# Annotations

Annotations are named texts.  They are kept in ascending order of their names,
each name once, so two collections with the same annotations are equal.
-/

namespace CloudSteward

/-- Named texts in ascending order of the names. -/
structure Annotations where
  entries : List (String × String)
  ascending : entries.Pairwise fun first second => first.1 < second.1
deriving DecidableEq

namespace Annotations

def empty : Annotations := ⟨[], .nil⟩

instance : Inhabited Annotations := ⟨empty⟩

def isEmpty (annotations : Annotations) : Bool :=
  annotations.entries.isEmpty

/-- The text of a name. -/
def get? (annotations : Annotations) (name : String) : Option String :=
  annotations.entries.lookup name

def contains (annotations : Annotations) (name : String) : Bool :=
  (annotations.get? name).isSome

private theorem lt_of_not_lt_of_ne {first second : String} (hlt : ¬first < second)
    (hne : first ≠ second) : second < first :=
  String.not_le.mp fun hle => hne (String.le_antisymm hle (String.not_lt.mp hlt))

/-- Puts an entry in its place, or replaces the text of its name. -/
def insertEntry (name text : String) : List (String × String) → List (String × String)
  | [] => [(name, text)]
  | (first, old) :: rest =>
      if name < first then (name, text) :: (first, old) :: rest
      else if name = first then (name, text) :: rest
      else (first, old) :: insertEntry name text rest

theorem mem_insertEntry {name text : String} {entry : String × String}
    {entries : List (String × String)} (h : entry ∈ insertEntry name text entries) :
    entry = (name, text) ∨ entry ∈ entries := by
  induction entries with
  | nil => simpa [insertEntry] using h
  | cons head rest ih =>
      obtain ⟨first, old⟩ := head
      simp only [insertEntry] at h
      split at h
      · simpa using h
      · split at h
        · rcases List.mem_cons.mp h with h | h
          · exact .inl h
          · exact .inr (List.mem_cons_of_mem _ h)
        · rcases List.mem_cons.mp h with h | h
          · exact .inr (h ▸ List.mem_cons_self)
          · exact (ih h).imp_right (List.mem_cons_of_mem _)

theorem ascending_insertEntry (name text : String) {entries : List (String × String)}
    (h : entries.Pairwise fun first second => first.1 < second.1) :
    (insertEntry name text entries).Pairwise fun first second => first.1 < second.1 := by
  induction entries with
  | nil => simp [insertEntry]
  | cons head rest ih =>
      obtain ⟨first, old⟩ := head
      obtain ⟨hfirst, hrest⟩ := List.pairwise_cons.mp h
      simp only [insertEntry]
      split
      · rename_i hlt
        refine List.pairwise_cons.mpr ⟨fun entry hentry => ?_, h⟩
        rcases List.mem_cons.mp hentry with rfl | hentry
        · exact hlt
        · exact String.lt_trans hlt (hfirst entry hentry)
      · rename_i hlt
        split
        · rename_i heq
          subst heq
          exact List.pairwise_cons.mpr ⟨hfirst, hrest⟩
        · rename_i hne
          refine List.pairwise_cons.mpr ⟨fun entry hentry => ?_, ih hrest⟩
          rcases mem_insertEntry hentry with rfl | hentry
          · exact lt_of_not_lt_of_ne hlt hne
          · exact hfirst entry hentry

/-- Sets the text of a name. -/
def insert (annotations : Annotations) (name text : String) : Annotations where
  entries := insertEntry name text annotations.entries
  ascending := ascending_insertEntry name text annotations.ascending

/-- Removes a name. -/
def erase (annotations : Annotations) (name : String) : Annotations where
  entries := annotations.entries.filter fun entry => entry.1 ≠ name
  ascending := annotations.ascending.filter _

/-- The annotations of a list in any order; of repeated names the last counts. -/
def ofList (entries : List (String × String)) : Annotations :=
  entries.foldl (fun annotations entry => annotations.insert entry.1 entry.2) empty

end Annotations

end CloudSteward
