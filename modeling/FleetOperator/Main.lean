import FleetOperator.Resource.Definition

/-!
# The command line

The program takes no arguments and prints the definitions of the custom resources, ready to be
applied to a cluster.
-/

/-- Prints the definitions of the custom resources. -/
def main : IO Unit := IO.print FleetOperator.Definition.manifest
