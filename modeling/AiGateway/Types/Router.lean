import AiGateway.Framework.Text

/-!
# Router ids

`types/router.rs`: the ids of routers. Configurations name the default router `default`, and
every other name is a router of its own, also one that differs from it in case only.
-/

namespace AiGateway

inductive RouterId
  | default
  | named (name : List Char)
  deriving DecidableEq, Repr

namespace RouterId

/-- `Deserialize`, on a string of the configuration. -/
def deserialize (s : List Char) : RouterId :=
  if s = "default".toList then default else named s

/-- `AsRef<str>`, which is also what `Display` writes. -/
def asStr : RouterId → List Char
  | named name => name
  | default => "default".toList

/-- An id is read from its own text. -/
theorem asStr_deserialize (s : List Char) : (deserialize s).asStr = s := by
  unfold deserialize
  split
  · next hdefault => exact hdefault.symm
  · rfl

end RouterId

end AiGateway
