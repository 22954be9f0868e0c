import ProtoSchema.Failure

/-!
# Requests to a compiler

A request says what a compiler is to compile, where it looks for imports, and
which file it writes.  There is at least one input.

A compiler gets its arguments in this order: the directories for imports, the
output, the wish for all imports, whatever else was asked for, and the inputs.
-/

namespace ProtoSchema

/-- A request to a compiler. -/
structure CompileRequest where
  /-- The file to write. -/
  output : String
  /-- The files to compile. -/
  inputs : List String
  /-- There is something to compile. -/
  inputs_ne_nil : inputs ≠ []
  /-- The directories that imports are looked for in. -/
  includeDirs : List String := []
  /-- Further arguments. -/
  extraArgs : List String := []
  /-- Whether the output holds the imports as well. -/
  includeImports : Bool := false

namespace CompileRequest

/-- The request to compile some files. -/
def of (output : String) (inputs : List String) : Except Failure CompileRequest :=
  if h : inputs = [] then .error .noInputs else .ok { output, inputs, inputs_ne_nil := h }

/-- The arguments that a compiler gets. -/
def arguments (request : CompileRequest) : List String :=
  request.includeDirs.map ("-I" ++ ·) ++ ["-o" ++ request.output] ++
    (if request.includeImports then ["--include_imports"] else []) ++ request.extraArgs ++
    request.inputs

end CompileRequest

end ProtoSchema
