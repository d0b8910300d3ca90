/-!
# Routes

How the objects of a manifest are addressed and written. Only a table of plural names decides: some
types have no namespace, and some of those are guarded, so that an existing object is never
overwritten.
-/

namespace FleetOperator.Manifest

/-- How an object is addressed and written. -/
inductive Route where
  | namespaced
  | clusterScoped
  | guardedSingleton
deriving DecidableEq, Repr

/-- The plural names of the types without a namespace and of the guarded types. -/
structure ScopeTable where
  clusterScoped : List String := ["namespaces", "clusterroles", "clusterrolebindings"]
  guarded : List String := ["namespaces"]
deriving DecidableEq, Repr

/-- The route of the objects of a type. -/
def ScopeTable.route (table : ScopeTable) (plural : String) : Route :=
  if plural ∈ table.guarded then .guardedSingleton
  else if plural ∈ table.clusterScoped then .clusterScoped
  else .namespaced

end FleetOperator.Manifest
