import ShadeBake.Warning

/-! Compilers of shader source, seen from where they are called. -/

namespace ShadeBake

/-- A compiled shader: its path, and what reading the file there gives. -/
structure CompiledShader where
  path : Path
  content : Except ReadFailure String

/-- What a compiler answers: a compiled shader or none, and its warnings. -/
structure Compilation where
  shader : Option CompiledShader
  warnings : List Warning := []

/-- A compiler takes the name and the source of a shader. It may keep a state of its own from call to
call. -/
abbrev Compiler (σ : Type) := String → String → σ → Compilation × σ

/-- The compiler of a build without support for compiling. -/
def Compiler.disabled {σ : Type} : Compiler σ :=
  fun _ _ state => (⟨none, [.compilingDisabled]⟩, state)

end ShadeBake
