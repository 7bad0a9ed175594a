import CloudSteward.Http.Domain
import CloudSteward.Http.Numeric
import CloudSteward.Http.Percent

/-!
# Hosts

What stands for a host in an address: a name, or one of the two kinds of numbers.
-/

namespace CloudSteward.Http

/-- A host. -/
inductive Host where
  /-- A name; it may be empty where the scheme needs no host. -/
  | name (text : String)
  /-- A number of four bytes. -/
  | four (number : Nat)
  /-- A number of eight units of sixteen bits. -/
  | eight (units : List Nat)
deriving DecidableEq, Repr

namespace Host

/-- The text of a host. -/
def text : Host → String
  | .name text => text
  | .four number => Numeric.fourText number
  | .eight units => "[" ++ Numeric.eightText units ++ "]"

/-- The host between brackets. -/
def bracketed? (cs : List Char) : Option Host :=
  if cs.getLast? = some ']' then (Numeric.eight? (cs.drop 1).dropLast).map .eight else none

/-- The host of a well-known scheme. -/
def ofWeb? (cs : List Char) : Option Host :=
  if cs.head? = some '[' then bracketed? cs
  else do
    let name ← Domain.plain? (← decoded? cs)
    if name = [] then none
    else if Numeric.endsInNumber name then (Numeric.four? name).map .four
    else some (.name (String.ofList name))

/-- The characters that have a meaning in an address and stand in no host. -/
def reserved : List Char :=
  ['\x00', '\t', '\n', '\r', ' ', '#', '/', ':', '<', '>', '?', '@', '[', '\\', ']', '^', '|']

/-- The host of a scheme that is not known: any name without reserved characters. -/
def ofOther? (cs : List Char) : Option Host :=
  if cs.head? = some '[' then bracketed? cs
  else if cs.any reserved.contains then none
  else some (.name (String.ofList (encode [] cs)))

end Host

end CloudSteward.Http
