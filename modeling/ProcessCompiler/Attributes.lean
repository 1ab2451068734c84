import ProcessCompiler.BuiltinType
import ProcessCompiler.Json.Document

/-!
# Attributes of the built-in node types

* `BuiltinType.Attributes`: what a node of a type is told.
* `BuiltinType.codec`: how that is written in a definition.
* `BuiltinType.readAttributes`: reads the attributes of a node.
-/

namespace ProcessCompiler

open Json

/-! ## Types -/

/-- The branches that a split takes: the first whose constraint holds, all, or each whose constraint holds. -/
inductive SplitKind where
  | xor
  | and
  | or
  deriving DecidableEq

/-- The branches that a join waits for: all, the first, or the first with the others discarded. -/
inductive JoinKind where
  | and
  | xor
  | discriminator
  deriving DecidableEq

/-- The condition of a branch of a split. -/
structure Constraint where
  target : String
  expr : String
  priority : UInt32
  deriving DecidableEq

/-- Attributes of a start node. -/
structure StartAttributes where
  signal : Option String
  deriving DecidableEq

/-- Attributes of an end node. -/
structure FinishAttributes where
  terminate : Bool
  deriving DecidableEq

/-- Attributes of a task. -/
structure TaskAttributes where
  expr : String
  output : Option String
  deriving DecidableEq

/-- Attributes of a work item. -/
structure WorkItemAttributes where
  workName : String
  parameters : SortedMap String

/-- Attributes of a split. -/
structure SplitAttributes where
  kind : SplitKind
  constraints : List Constraint
  deriving DecidableEq

/-- Attributes of a join. -/
structure JoinAttributes where
  kind : JoinKind
  deriving DecidableEq

/-- Attributes of a timer. -/
structure TimerAttributes where
  delay : String
  deriving DecidableEq

/-- Attributes of a milestone. -/
structure MilestoneAttributes where
  condition : String
  deriving DecidableEq

/-- Attributes of an embedded sub-process. -/
structure SubProcessAttributes where
  autoComplete : Bool
  deriving DecidableEq

/-- Attributes of a for-each. -/
structure ForEachAttributes where
  collection : String
  item : String
  output : Option String
  deriving DecidableEq

/-- Attributes of an event sub-process. -/
structure EventSubProcessAttributes where
  signal : String
  deriving DecidableEq

/-! ## As JSON -/

/-- The split kinds by their names. -/
def SplitKind.byName : List (String × SplitKind) := [("xor", .xor), ("and", .and), ("or", .or)]

/-- The name of a split kind. -/
def SplitKind.name : SplitKind → String
  | .xor => "xor"
  | .and => "and"
  | .or => "or"

/-- The join kinds by their names. -/
def JoinKind.byName : List (String × JoinKind) := [("and", .and), ("xor", .xor), ("discriminator", .discriminator)]

/-- The name of a join kind. -/
def JoinKind.name : JoinKind → String
  | .and => "and"
  | .xor => "xor"
  | .discriminator => "discriminator"

/-- The fields of a constraint. -/
def constraintRecord :=
  Record.cons (.required "to" .string) <|
  .cons (.required "expr" .string) <|
  .cons (.withDefault "priority" .word32 0 (fun _ => false)) .nil

/-- Constraints as JSON. -/
def Constraint.codec : Codec Constraint :=
  constraintRecord.codec "SplitConstraint" (fun (target, expr, priority, ()) => ⟨target, expr, priority⟩)
    (fun c => (c.target, c.expr, c.priority, ()))

namespace BuiltinType

/-- What a node of a type is told. -/
def Attributes : BuiltinType → Type
  | .start => StartAttributes
  | .finish => FinishAttributes
  | .task => TaskAttributes
  | .workItem => WorkItemAttributes
  | .split => SplitAttributes
  | .join => JoinAttributes
  | .timer => TimerAttributes
  | .milestone => MilestoneAttributes
  | .subProcess => SubProcessAttributes
  | .forEach => ForEachAttributes
  | .eventSubProcess => EventSubProcessAttributes

/-- The attributes of a type as JSON. -/
def codec : (type : BuiltinType) → Codec type.Attributes
  | .start =>
    (Record.cons (.optional "signal" .string) .nil).codec "StartAttributes"
      (fun (signal, ()) => StartAttributes.mk signal) (fun a => (a.signal, ()))
  | .finish =>
    (Record.cons (.withDefault "terminate" .bool true (fun _ => false)) .nil).codec "EndAttributes"
      (fun (terminate, ()) => FinishAttributes.mk terminate) (fun a => (a.terminate, ()))
  | .task =>
    (Record.cons (.required "expr" .string) (.cons (.optional "output" .string) .nil)).codec "TaskAttributes"
      (fun (expr, output, ()) => TaskAttributes.mk expr output) (fun a => (a.expr, a.output, ()))
  | .workItem =>
    (Record.cons (.required "workName" .string)
      (.cons (.withDefault "parameters" (.map .string) .empty SortedMap.isEmpty) .nil)).codec "WorkItemAttributes"
      (fun (workName, parameters, ()) => WorkItemAttributes.mk workName parameters)
      (fun a => (a.workName, a.parameters, ()))
  | .split =>
    (Record.cons (.required "kind" (.enumeration SplitKind.byName SplitKind.name))
      (.cons (.withDefault "constraints" (.list Constraint.codec) [] List.isEmpty) .nil)).codec "SplitAttributes"
      (fun (kind, constraints, ()) => SplitAttributes.mk kind constraints) (fun a => (a.kind, a.constraints, ()))
  | .join =>
    (Record.cons (.required "kind" (.enumeration JoinKind.byName JoinKind.name)) .nil).codec "JoinAttributes"
      (fun (kind, ()) => JoinAttributes.mk kind) (fun a => (a.kind, ()))
  | .timer =>
    (Record.cons (.required "delay" .string) .nil).codec "TimerAttributes"
      (fun (delay, ()) => TimerAttributes.mk delay) (fun a => (a.delay, ()))
  | .milestone =>
    (Record.cons (.required "condition" .string) .nil).codec "MilestoneAttributes"
      (fun (condition, ()) => MilestoneAttributes.mk condition) (fun a => (a.condition, ()))
  | .subProcess =>
    (Record.cons (.withDefault "autoComplete" .bool true (fun _ => false)) .nil).codec "SubProcessAttributes"
      (fun (autoComplete, ()) => SubProcessAttributes.mk autoComplete) (fun a => (a.autoComplete, ()))
  | .forEach =>
    (Record.cons (.required "collection" .string)
      (.cons (.required "item" .string) (.cons (.optional "output" .string) .nil))).codec "ForEachAttributes"
      (fun (collection, item, output, ()) => ForEachAttributes.mk collection item output)
      (fun a => (a.collection, a.item, a.output, ()))
  | .eventSubProcess =>
    (Record.cons (.required "signal" .string) .nil).codec "EventSubProcessAttributes"
      (fun (signal, ()) => EventSubProcessAttributes.mk signal) (fun a => (a.signal, ()))

/-- Reads the attributes of a node of a type. -/
def readAttributes (type : BuiltinType) (attributes : SortedMap Value) : Except ReadError type.Attributes :=
  type.codec.read.ofValue (.object attributes.entries)

/-- Attributes as JSON. -/
def writeAttributes (type : BuiltinType) (attributes : type.Attributes) : Value := type.codec.write attributes

end BuiltinType

end ProcessCompiler
