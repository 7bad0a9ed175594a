import CloudSteward.Status

/-!
# Linking declared integrations to roles

Every declared integration gets a status.  Those with an `arn` are linked to the
role with the same identifier.  Those that are not linked then claim, one after
the other, the roles that have no `arn` yet, in the order of the role ids.  The
roles that nobody declared or claimed are to be removed.
-/

namespace CloudSteward.Linking

/-- The roles in ascending order of their ids; equal ids keep their order. -/
def sortRoles (roles : List Role) : List Role :=
  roles.mergeSort fun first second => first.roleId ≤ second.roleId

/-- The status of a declared integration before anything was linked. -/
def declare (integration : Integration) : Status :=
  .new integration.provider integration.arn

/-- The last role with a given identifier. -/
def roleFor? (roles : List Role) (id : String) : Option Role :=
  (roles.filter fun role => identifier role = id).getLast?

/-- Links a status to the role with its identifier, if it has an identifier and
there is such a role. -/
def linkExact (roles : List Role) (status : Status) : Status :=
  if identifier status = "" then status
  else
    match roleFor? roles (identifier status) with
    | some role => status.linked role
    | none => status

/-- Lets statuses that are not linked claim free roles in order; gives the statuses
and the roles that are left. -/
def claim : List Status → List Role → List Status × List Role
  | [], free => ([], free)
  | status :: rest, [] => (status :: rest, [])
  | status :: rest, role :: free =>
      if status.isLinked then
        let (claimed, left) := claim rest (role :: free)
        (status :: claimed, left)
      else
        let (claimed, left) := claim rest free
        (status.linked role :: claimed, left)

/-- The statuses of the declared integrations, followed by those of the roles that
are to be removed. -/
def statuses (desired : List Integration) (remote : List Role) : List Status :=
  let roles := sortRoles remote
  let free := roles.filter fun role => role.arn = ""
  let (declared, unclaimed) := claim ((desired.map declare).map (linkExact roles)) free
  let visible := roles.filter fun role => role.arn ≠ ""
  declared ++ (difference visible declared ++ unclaimed).map Status.removal

end CloudSteward.Linking
