import ProcessCompiler.Delay
import ProcessCompiler.Generator

/-!
# Generators of the built-in node types

Each checks what a node is told, resolves its expressions in the scope around the node, and writes the calls that set
up its builder.
-/

namespace ProcessCompiler

/-- The name of a split kind in generated code. -/
def SplitKind.codeName : SplitKind → String
  | .xor => "Xor"
  | .and => "And"
  | .or => "Or"

/-- The name of a join kind in generated code. -/
def JoinKind.codeName : JoinKind → String
  | .and => "And"
  | .xor => "Xor"
  | .discriminator => "Discriminator"

namespace BuiltinType

open Draft

/-! ## Plain nodes -/

/-- Starts the process, perhaps on a signal. -/
def draftStart (site : Site) (node : NodeHeader) : Draft (String → Code) := do
  let a : StartAttributes ← attributes .start node
  match a.signal with
  | none =>
    let create ← builder site node "start_node" "StartNodeFactory"
    pure fun handle => create handle ++ doneCode handle
  | some signal =>
    requireText "signal" signal
    let create ← builder site node "start_node" "StartNodeFactory"
    request (.signal signal)
    pure fun handle => create handle ++ Code.call handle "trigger" [Code.string signal] ++ doneCode handle

/-- Ends a graph. -/
def draftFinish (site : Site) (node : NodeHeader) : Draft (String → Code) := do
  let a : FinishAttributes ← attributes .finish node
  let create ← builder site node "end_node" "EndNodeFactory"
  pure fun handle => create handle ++ Code.call handle "terminate" [Code.bool a.terminate] ++ doneCode handle

/-- Evaluates an expression, perhaps into a variable. -/
def draftTask (site : Site) (node : NodeHeader) : Draft (String → Code) := do
  let a : TaskAttributes ← attributes .task node
  requireText "expr" a.expr
  let e ← resolve site node "expr" a.expr
  let output ← receiver? site node "output" a.output
  let create ← builder site node "action_node" "ActionNodeFactory"
  pure fun handle =>
    create handle ++ Code.call handle "action" [e.code site.options] ++ Code.callOption handle "output" output ++
      doneCode handle

/-- The call that sets a parameter of a work item; only a value that opens as an expression is one. -/
def draftParameter (site : Site) (node : NodeHeader) (key value : String) : Draft (String → Code) :=
  if Expression.isEmbedded value then do
    let e ← resolve site node ("parameters." ++ key) value
    pure fun handle => Code.call handle "parameter_expression" [Code.string key, e.code site.options]
  else pure fun handle => Code.call handle "parameter" [Code.string key, Code.string value]

/-- The calls that set parameters of a work item. -/
def draftParameters (site : Site) (node : NodeHeader) : List (String × String) → Draft (String → Code)
  | [] => pure fun _ => []
  | (key, value) :: rest => do
    let first ← draftParameter site node key value
    let others ← draftParameters site node rest
    pure fun handle => first handle ++ others handle

/-- Delegates to a handler of work items. -/
def draftWorkItem (site : Site) (node : NodeHeader) : Draft (String → Code) := do
  let a : WorkItemAttributes ← attributes .workItem node
  requireText "workName" a.workName
  let create ← builder site node "work_item_node" "WorkItemNodeFactory"
  let parameters ← draftParameters site node a.parameters.entries
  request (.workItem a.workName)
  pure fun handle =>
    create handle ++ Code.call handle "work_name" [Code.string a.workName] ++ parameters handle ++ doneCode handle

/-- The call that adds a constraint to a split. -/
def draftConstraint (site : Site) (node : NodeHeader) (c : Constraint) : Draft (String → Code) := do
  requireText "constraints.to" c.target
  let e ← resolve site node ("constraints." ++ c.target) c.expr
  pure fun handle =>
    Code.call handle "constraint"
      [Code.string c.target, Code.words [toString c.priority.toNat ++ "u32"], e.code site.options,
        Code.words [conditionHelper]]

/-- The calls that add constraints to a split. -/
def draftConstraints (site : Site) (node : NodeHeader) : List Constraint → Draft (String → Code)
  | [] => pure fun _ => []
  | c :: rest => do
    let first ← draftConstraint site node c
    let others ← draftConstraints site node rest
    pure fun handle => first handle ++ others handle

/-- Diverges into branches. -/
def draftSplit (site : Site) (node : NodeHeader) : Draft (String → Code) := do
  let a : SplitAttributes ← attributes .split node
  if a.kind = .and ∧ a.constraints ≠ [] then
    fail (.malformedAttribute "an 'and' split takes every branch and accepts no constraints")
  else
    let create ← builder site node "split_node" "SplitFactory"
    let constraints ← draftConstraints site node a.constraints
    if a.kind ≠ .and then needConditionHelper site
    pure fun handle =>
      create handle ++ Code.call handle "kind" [site.options.runtimeMember ["SplitKind", a.kind.codeName]] ++
        constraints handle ++ doneCode handle

/-- Synchronizes branches. -/
def draftJoin (site : Site) (node : NodeHeader) : Draft (String → Code) := do
  let a : JoinAttributes ← attributes .join node
  let create ← builder site node "join_node" "JoinFactory"
  pure fun handle =>
    create handle ++ Code.call handle "kind" [site.options.runtimeMember ["JoinKind", a.kind.codeName]] ++
      doneCode handle

/-- Waits for a delay, given or computed. -/
def draftTimer (site : Site) (node : NodeHeader) : Draft (String → Code) := do
  let a : TimerAttributes ← attributes .timer node
  let delay := Text.trim a.delay
  requireText "delay" delay
  let create ← builder site node "timer_node" "TimerNodeFactory"
  if Expression.isEmbedded delay then
    let e ← resolve site node "delay" delay
    pure fun handle =>
      create handle ++ Code.call handle "delay_expression" [e.code site.options] ++ doneCode handle
  else if Delay.isLiteral delay then
    pure fun handle => create handle ++ Code.call handle "delay" [Code.string delay] ++ doneCode handle
  else fail (.malformedAttribute ("delay '" ++ delay ++ "' is neither a duration nor an expression"))

/-- Waits for a condition. -/
def draftMilestone (site : Site) (node : NodeHeader) : Draft (String → Code) := do
  let a : MilestoneAttributes ← attributes .milestone node
  requireText "condition" a.condition
  let e ← resolve site node "condition" a.condition
  needConditionHelper site
  let create ← builder site node "milestone_node" "MilestoneNodeFactory"
  pure fun handle =>
    create handle ++ Code.call handle "condition" [e.code site.options, Code.words [conditionHelper]] ++
      doneCode handle

/-! ## Composite nodes -/

/-- Runs a sub-graph. -/
def draftSubProcess (site : Site) (node : NodeHeader) : Draft (String → Code) := do
  let a : SubProcessAttributes ← attributes .subProcess node
  let create ← builder site node "composite_node" "CompositeContextNodeFactory"
  pure fun handle => create handle ++ Code.call handle "auto_complete" [Code.bool a.autoComplete]

/-- Runs a sub-graph when a signal comes. -/
def draftEventSubProcess (site : Site) (node : NodeHeader) : Draft (String → Code) := do
  let a : EventSubProcessAttributes ← attributes .eventSubProcess node
  requireText "signal" a.signal
  request (.signal a.signal)
  let create ← builder site node "event_sub_process_node" "EventSubProcessNodeFactory"
  pure fun handle => create handle ++ Code.call handle "trigger" [Code.string a.signal]

/-- Runs a sub-graph for each item of a collection. The item is a variable of the node's own scope, the collection and
the output are seen from the scope around the node. -/
def draftForEach (site : Site) (node : NodeHeader) (own : ScopeId) : Draft (String → Code) := do
  let a : ForEachAttributes ← attributes .forEach node
  requireText "collection" a.collection
  let text ← normalize site node a.item
  let item := Text.trim text
  requireText "item" item
  if (site.scopes.declared? own item).isNone then
    fail (.malformedAttribute ("item variable '" ++ item ++ "' must be declared in the node's own variables"))
  else
    let collection ← resolve site node "collection" a.collection
    let output ← receiver? site node "output" a.output
    let create ← builder site node "for_each_node" "ForEachNodeFactory"
    pure fun handle =>
      create handle ++ Code.call handle "collection_expression" [collection.code site.options] ++
        Code.call handle "variable_name" [Code.string item] ++
        Code.callOption handle "output_collection" output

/-! ## By type -/

/-- The generator of a built-in type. -/
def generator : BuiltinType → Generator
  | .start => .builder draftStart
  | .finish => .builder draftFinish
  | .task => .builder draftTask
  | .workItem => .builder draftWorkItem
  | .split => .builder draftSplit
  | .join => .builder draftJoin
  | .timer => .builder draftTimer
  | .milestone => .builder draftMilestone
  | .subProcess => .composite fun site node _ => draftSubProcess site node
  | .forEach => .composite draftForEach
  | .eventSubProcess => .composite fun site node _ => draftEventSubProcess site node

end BuiltinType

end ProcessCompiler
