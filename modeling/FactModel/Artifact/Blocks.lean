/-!
# Joining parts of artifacts
-/

namespace FactModel.Artifact

/-- Parts on lines of their own. -/
def unlines (parts : List String) : String :=
  String.intercalate "\n" parts

/-- Blocks with an empty line between them and a line feed at the end. -/
def blocks (parts : List String) : String :=
  String.intercalate "\n\n" parts ++ "\n"

/-- Blocks, or nothing at all when there are none. -/
def blocksIfAny (parts : List String) : String :=
  if parts.isEmpty then "" else blocks parts

/-- Lines that each end in a line feed. -/
def linesIfAny (parts : List String) : String :=
  if parts.isEmpty then "" else unlines parts ++ "\n"

end FactModel.Artifact
