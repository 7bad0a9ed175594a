/-!
# Identity and differences

Declared and remote things are compared by an identifier only.  An empty
identifier belongs to a thing that is not linked to anything yet; it matches
nothing, not even another empty one, so such a thing is always different.
-/

namespace CloudSteward

/-- Things that have a natural key. -/
class Identifiable (α : Type) where
  /-- The key; empty while the thing is not linked. -/
  identifier : α → String

export Identifiable (identifier)

variable {α β : Type} [Identifiable α] [Identifiable β]

/-- Whether a thing is known among others by its identifier. -/
def knownAmong (item : α) (others : List β) : Bool :=
  identifier item ≠ "" && others.any fun other => identifier other = identifier item

/-- The things of `left` that are not known in `right`, in their order. -/
def difference (left : List α) (right : List β) : List α :=
  left.filter fun item => !knownAmong item right

/-- What has to be created and what has to be deleted to get from a remote
collection to a desired one. -/
structure Diff (α β : Type) where
  toCreate : List α
  toDelete : List β

namespace Diff

def compute (desired : List α) (remote : List β) : Diff α β where
  toCreate := difference desired remote
  toDelete := difference remote desired

def isEmpty {α β : Type} (diff : Diff α β) : Bool :=
  diff.toCreate.isEmpty && diff.toDelete.isEmpty

end Diff

end CloudSteward
