import FactModel.Artifact.Blocks
import FactModel.Graph.Lookup
import FactModel.Graph.Path

/-!
# The matrix of distances

For every two entities the length of the shortest chain of relationships to one that leads from the
first to the second, as lines of fields parted by commas.
-/

namespace FactModel

/-- A field with its quotes written twice. -/
def Matrix.escape (cs : List Char) : List Char :=
  cs.flatMap fun c => if c = '"' then ['"', '"'] else [c]

/-- A field of a line, between quotes only when it holds a comma, a quote or a line feed. -/
def Matrix.field (text : String) : String :=
  let cs := text.toList
  if cs.any fun c => c = ',' ∨ c = '"' ∨ c = '\n' then
    String.ofList ('"' :: escape cs ++ ['"'])
  else text

/-- A line of fields. -/
def Matrix.line (fields : List String) : String :=
  String.intercalate "," (fields.map field) ++ "\n"

namespace Graph

/-- The length of the shortest chain between two entities, if there is one. -/
def distance? (g : Graph) (source target : Nat) : Option Nat :=
  (g.derivationPath? source target).map (·.length)

/-- The distances from an entity to all entities, in order. -/
def distances (g : Graph) (source : Nat) : List (Option Nat) :=
  g.entities.map fun e => g.distance? source e.index

/-- A distance as a field, empty when there is none. -/
def distanceField (distance : Option Nat) : String :=
  (distance.map toString).getD ""

end Graph

/-- Makes sure that the ends of relationships are there. -/
def Matrix.check (g : Graph) : Except Missing Unit :=
  g.relationships.forM fun r => do
    g.checkEntity r.source
    g.checkEntity r.target

/-- The matrix of a graph, with the names of entities above and in front. -/
def Artifact.matrix (g : Graph) : String :=
  Matrix.line ("entity" :: g.entities.map (·.name)) ++
    String.join (g.entities.map fun e =>
      Matrix.line (e.name :: (g.distances e.index).map Graph.distanceField))

end FactModel
