import CloudSteward.Cloud.Call
import CloudSteward.Wire.Resource

/-!
# Deletion protection

With protection on, the cloud is changed only where the operator can show that
it owns what it changes.  Three views of a collection decide that: what was
applied last, what is declared now, and what the cloud has.
-/

namespace CloudSteward

/-- Why ownership cannot be decided. -/
inductive OwnershipError where
  | malformedLastApplied (error : Json.Error)
  | remote (error : CloudError)
deriving DecidableEq, Repr

namespace OwnershipError

def text : OwnershipError → String
  | .malformedLastApplied error => "malformed last applied configuration: " ++ error.message
  | .remote error => error.text

end OwnershipError

namespace Ownership

/-- Where users learn about deletion protection. -/
def docs : String :=
  "see https://dochub.mongodb.org/core/ako-deletion-protection for further information"

/-- Whether a remote collection may be changed: protection is off, or nothing is
there, or everything there was applied last, or everything declared is there. -/
def permits {α β γ : Type} [Identifiable α] [Identifiable β] [Identifiable γ] (guarded : Bool)
    (lastApplied : List α) (current : List β) (remote : List γ) : Bool :=
  !guarded || remote.isEmpty || (difference remote lastApplied).isEmpty ||
    (difference current remote).isEmpty

/-- Whether the roles of a project may be changed.  Roles without an `arn` are not
visible to users yet and do not count. -/
def permitsProject (guarded : Bool) (project : Project) (remote : List Role) :
    Except OwnershipError Bool :=
  if !guarded then .ok true
  else
    match project.metadata.applied ProjectSpec.codec with
    | .error error => .error (.malformedLastApplied error)
    | .ok snapshot =>
        let lastApplied := match snapshot with
          | some spec => spec.declared
          | none => []
        let visible := remote.filter fun role => role.arn ≠ ""
        .ok (permits guarded lastApplied project.spec.declared visible)

/-- Whether the operator owns a single object.  It does if it has recorded what it
applied; otherwise `diverged` is asked, and it does unless the object differs. -/
def owns {m : Type → Type} [Monad m] (guarded managed : Bool)
    (diverged : m (Except CloudError Bool)) : m (Except OwnershipError Bool) :=
  if !guarded || managed then pure (.ok true)
  else do
    match ← diverged with
    | .ok differs => pure (.ok !differs)
    | .error error => pure (.error (.remote error))

end Ownership

end CloudSteward
