import ProcessCompiler.Graph
import ProcessCompiler.Token

/-!
# The body of a generated program

A body is a sequence of instructions, each addressed to a handle: the factory of the process, or the builder of a
composite node.
-/

namespace ProcessCompiler

/-- What an instruction does. -/
inductive InstructionKind where
  | declaration (name : String)
  | node (uniqueId type : String)
  | connection (source target : String)
  | close (uniqueId : String)
  deriving DecidableEq

/-- An instruction for the builder with a handle. -/
structure Instruction where
  kind : InstructionKind
  handle : String
  code : Code

/-- The instructions of a program. -/
structure Body where
  instructions : List Instruction

namespace Body

/-- The body without instructions. -/
def empty : Body := ⟨[]⟩

/-- How many instructions there are. -/
def size (body : Body) : Nat := body.instructions.length

/-- The body with an instruction behind all others. -/
def push (body : Body) (instruction : Instruction) : Body := ⟨body.instructions ++ [instruction]⟩

/-- The unique ids of the nodes that instructions create, in order. -/
def nodeIds (body : Body) : List String :=
  body.instructions.filterMap fun i =>
    match i.kind with
    | .node id _ => some id
    | _ => none

/-- Whether an instruction creates the node with a unique id. -/
def creates (id : String) (i : Instruction) : Bool :=
  match i.kind with
  | .node other _ => other == id
  | _ => false

/-- Whether an instruction creates or closes the node with a unique id. -/
def belongsTo (id : String) (i : Instruction) : Bool :=
  match i.kind with
  | .node other _ | .close other => other == id
  | _ => false

/-- The place of the first instruction that creates a node. -/
def position? (body : Body) (id : String) : Option Nat := body.instructions.findIdx? (creates id)

/-- The code that creates and closes a node. -/
def fragment (body : Body) (id : String) : Code :=
  (body.instructions.filter (belongsTo id)).flatMap Instruction.code

/-- The code of all instructions. -/
def code (body : Body) : Code := body.instructions.flatMap Instruction.code

@[simp] theorem size_push (body : Body) (i : Instruction) : (body.push i).size = body.size + 1 := by
  simp [push, size]

@[simp] theorem code_push (body : Body) (i : Instruction) : (body.push i).code = body.code ++ i.code := by
  simp [push, code]

/-- The code of a node grows by what belongs to it. -/
theorem fragment_push (body : Body) (i : Instruction) (id : String) :
    (body.push i).fragment id = body.fragment id ++ if belongsTo id i then i.code else [] := by
  by_cases h : belongsTo id i <;> simp [push, fragment, h]

end Body

/-- The name of a variable type in generated code. -/
def VariableType.codeName : VariableType → String
  | .string => "String"
  | .integer => "Integer"
  | .number => "Number"
  | .boolean => "Boolean"
  | .array => "Array"
  | .object => "Object"

end ProcessCompiler
