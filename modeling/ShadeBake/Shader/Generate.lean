import ShadeBake.Shader.Emit
import ShadeBake.Warning

/-! Generating the source of a shader for a node that is to be found in a document. -/

namespace ShadeBake

namespace Shader

/-- The warning for a node that is in no graph: it blames the hinted graph if there is none of that name. -/
def notFound (document : Document) (node hint : String) : Warning :=
  if (document.graph? hint).isNone then .missingGraph hint else .missingNode node hint

/-- The program that computes a node, found by its name and a hint at its graph. Images are not turned:
their orientation is settled where texture reads are routed. -/
def program (document : Document) (searchPaths : List String) (name node hint : String) :
    Except Warning Program :=
  match document.findNode? hint node with
  | none => .error (notFound document node hint)
  -- The warning names the node and carries the cause with it.
  | some (graph, root) =>
    (emit { searchPaths } name graph root).mapError fun cause => .notGenerated node cause

/-- The source of the program that computes a node. -/
def generate (document : Document) (searchPaths : List String) (name node hint : String) :
    Except Warning String :=
  (program document searchPaths name node hint).map Program.text

/-- What is generated where there is a program is its text. -/
theorem generate_of_program {document : Document} {searchPaths : List String} {name node hint : String}
    {result : Program} (computes : program document searchPaths name node hint = .ok result) :
    generate document searchPaths name node hint = .ok result.text := by
  -- A program is written out, and a warning is passed on.
  rw [generate, computes]
  rfl

end Shader

end ShadeBake
