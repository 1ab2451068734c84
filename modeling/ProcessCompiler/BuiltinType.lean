/-!
# Built-in node types

A node's type tag selects how it is compiled. The composite types own a sub-graph.
-/

namespace ProcessCompiler

/-- A built-in node type. -/
inductive BuiltinType where
  | start
  | finish
  | task
  | workItem
  | split
  | join
  | timer
  | milestone
  | subProcess
  | forEach
  | eventSubProcess
  deriving DecidableEq

namespace BuiltinType

/-- All built-in types, in the order in which they are listed. -/
def all : List BuiltinType :=
  [.start, .finish, .task, .workItem, .split, .join, .timer, .milestone, .subProcess, .forEach, .eventSubProcess]

/-- The tag of a type in a definition. -/
def tag : BuiltinType → String
  | .start => "start"
  | .finish => "end"
  | .task => "task"
  | .workItem => "work-item"
  | .split => "split"
  | .join => "join"
  | .timer => "timer"
  | .milestone => "milestone"
  | .subProcess => "sub"
  | .forEach => "for-each"
  | .eventSubProcess => "event-sub"

/-- The type with a tag. -/
def ofTag? (tag : String) : Option BuiltinType := all.find? fun type => type.tag == tag

/-- Whether nodes of a type own a sub-graph. -/
def isComposite : BuiltinType → Bool
  | .subProcess | .forEach | .eventSubProcess => true
  | _ => false

/-- A type's name for people. -/
def displayName : BuiltinType → String
  | .start => "Start"
  | .finish => "End"
  | .task => "Script Task"
  | .workItem => "Work Item"
  | .split => "Split Gateway"
  | .join => "Join Gateway"
  | .timer => "Timer"
  | .milestone => "Milestone"
  | .subProcess => "Embedded Sub-Process"
  | .forEach => "For Each"
  | .eventSubProcess => "Event Sub-Process"

/-- What nodes of a type do, for people. -/
def description : BuiltinType → String
  | .start => "Entry point of a graph"
  | .finish => "Exit point of a graph"
  | .task => "Evaluates an expression, optionally storing the result"
  | .workItem => "Delegates work to a named work item handler"
  | .split => "Diverges control flow into constrained branches"
  | .join => "Synchronizes converging branches"
  | .timer => "Waits for a delay before continuing"
  | .milestone => "Completes once its condition holds"
  | .subProcess => "Runs an embedded sub-graph with its own variables"
  | .forEach => "Runs an embedded sub-graph once per collection item"
  | .eventSubProcess => "Runs an embedded sub-graph when a signal arrives"

/-- The category that a type is listed under. -/
def category : BuiltinType → String
  | .start | .finish | .timer => "event"
  | .task | .workItem => "execution"
  | .split | .join | .milestone => "control"
  | .subProcess | .forEach | .eventSubProcess => "container"

end BuiltinType

end ProcessCompiler
