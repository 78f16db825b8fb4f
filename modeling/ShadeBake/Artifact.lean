import ShadeBake.Text.Blank

/-! Reading what a compiled shader declares: its name, its inputs and its outputs. -/

namespace ShadeBake

/-- A declared parameter of a compiled shader. -/
structure Artifact.Parameter where
  name : String
  type : String
  deriving DecidableEq, Repr

/-- The declarations of a compiled shader, in order. -/
structure Artifact where
  name : String
  inputs : List Artifact.Parameter
  outputs : List Artifact.Parameter
  deriving DecidableEq, Repr

/-- Why the text of a compiled shader cannot be read. -/
inductive ArtifactError where
  | unnamedShader (line : String)
  | parameterBeforeShader (line : String)
  | untypedParameter (line : String)
  | untypedClosure (line : String)
  | unnamedParameter (line : String)
  | noShader
  deriving DecidableEq, Repr

namespace ArtifactError

/-- The words for an error. -/
def message : ArtifactError → String
  | unnamedShader line => s!"oso shader declaration without a name: {line}"
  | parameterBeforeShader line => s!"oso parameter before shader declaration: {line}"
  | untypedParameter line => s!"oso parameter without a type: {line}"
  | untypedClosure line => s!"oso closure parameter without a type: {line}"
  | unnamedParameter line => s!"oso parameter without a name: {line}"
  | noShader => "no shader declaration found in oso"

end ArtifactError

namespace Artifact

/-- The words that open the declaration of a shader. -/
def shaderWords : List String :=
  ["shader", "surface", "displacement", "volume", "light"]

/-- A line of a compiled shader that matters, as its words and its trimmed text. -/
structure Line where
  text : String
  head : String
  rest : List String
  deriving DecidableEq, Repr

/-- The line that a text is, unless it is empty or a comment. -/
def Line.ofText? (text : List Char) : Option Line :=
  let trimmed := Text.trim text
  -- A comment is told by its first character, whatever follows.
  if trimmed.head? = some '#' then none
  else
    match (Text.words trimmed).map String.ofList with
    | [] => none
    | head :: rest => some ⟨String.ofList trimmed, head, rest⟩

/-- The lines before the code section that are neither empty nor comments. -/
def declarationLines (text : String) : List Line :=
  ((Text.lines text.toList).filterMap Line.ofText?).takeWhile (·.head ≠ "code")

/-- The parameter that a line declares; a closure type takes up two words. -/
def Line.parameter (line : Line) : Except ArtifactError Parameter :=
  match line.rest with
  | [] => .error (.untypedParameter line.text)
  | type :: rest =>
    -- Each missing word has an error of its own.
    if type = "closure" then
      match rest with
      | [] => .error (.untypedClosure line.text)
      | [_] => .error (.unnamedParameter line.text)
      | inner :: name :: _ => .ok ⟨name, "closure " ++ inner⟩
    else
      match rest with
      | [] => .error (.unnamedParameter line.text)
      | name :: _ => .ok ⟨name, type⟩

/-- What is declared after one more line: a shader line starts anew, and all other words are skipped. -/
def readLine (shader : Option Artifact) (line : Line) : Except ArtifactError (Option Artifact) :=
  -- What an earlier declaration gathered is dropped.
  if line.head ∈ shaderWords then
    match line.rest with
    | [] => .error (.unnamedShader line.text)
    | name :: _ => .ok (some ⟨name, [], []⟩)
  else if line.head = "param" || line.head = "oparam" then
    match shader with
    | none => .error (.parameterBeforeShader line.text)
    | some artifact => do
      let parameter ← line.parameter
      if line.head = "oparam" then
        return some { artifact with outputs := artifact.outputs ++ [parameter] }
      else
        return some { artifact with inputs := artifact.inputs ++ [parameter] }
  else .ok shader

/-- The declarations in the text of a compiled shader. -/
def ofText (text : String) : Except ArtifactError Artifact := do
  -- The first line that is at fault decides, whatever comes after it.
  match ← (declarationLines text).foldlM readLine none with
  | some artifact => return artifact
  | none => throw .noShader

end Artifact

end ShadeBake
