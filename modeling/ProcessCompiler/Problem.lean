import ProcessCompiler.Scope

/-!
# Why a graph cannot be compiled
-/

namespace ProcessCompiler

/-- What is wrong with a node. -/
inductive Problem where
  | malformedAttribute (reason : String)
  | undefinedVariable (name expression : String)
  | unclosedExpression (expression : String)
  | scopeNotNested
  deriving DecidableEq

/-- A problem, and the node that has it. -/
structure CompileError where
  nodeId : String
  nodeType : String
  problem : Problem
  deriving DecidableEq

/-- The code of a problem in messages. -/
def Problem.code : Problem → String
  | .malformedAttribute _ => "C001"
  | .undefinedVariable _ _ => "C002"
  | .unclosedExpression _ => "C003"
  | .scopeNotNested => "C004"

/-- The wording of a problem. -/
def Problem.message : Problem → String
  | .malformedAttribute reason => "malformed attribute: " ++ reason
  | .undefinedVariable name expression =>
    "expression '" ++ expression ++ "' references undefined variable '" ++ name ++ "'"
  | .unclosedExpression expression =>
    "expression '" ++ expression ++ "' opens with '#\x7b' but does not end with '\x7d'"
  | .scopeNotNested => "composite scope is not nested in the enclosing scope"

/-- A message about a node, with its code. -/
def nodeMessage (code id type message : String) : String :=
  "[" ++ code ++ "] Node '" ++ id ++ "' (type '" ++ type ++ "'): " ++ message

/-- The wording of an error. -/
def CompileError.message (e : CompileError) : String :=
  nodeMessage e.problem.code e.nodeId e.nodeType e.problem.message

/-- Why no code comes out: a node is rejected, or a graph names a scope that its arena does not have. -/
inductive GenerationError where
  | rejected (error : CompileError)
  | foreignScope (error : ForeignScope)
  deriving DecidableEq

end ProcessCompiler
