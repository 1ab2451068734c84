import ProcessCompiler.Text.Quoted

/-!
# Generated code

Code is a sequence of tokens with nested groups, and is laid out last: one blank between tokens, none inside round and
square brackets, one inside braces.

* `Code.text`: the text of code.
-/

namespace ProcessCompiler

/-- The brackets of a group. -/
inductive Brackets where
  | round
  | square
  | curly
  deriving DecidableEq

/-- A token: a word (a name, a number, an operator), a string literal, or a group. -/
inductive Token where
  | word (text : String)
  | quoted (text : String)
  | group (brackets : Brackets) (content : List Token)

/-- A piece of generated code. -/
abbrev Code := List Token

mutual

/-- The text of a token. -/
def Token.text : Token → String
  | .word text => text
  | .quoted text => Text.literal text
  | .group .round content => "(" ++ Token.textAll content ++ ")"
  | .group .square content => "[" ++ Token.textAll content ++ "]"
  | .group .curly [] => "\x7b \x7d"
  | .group .curly (token :: content) => "\x7b " ++ token.text ++ Token.textMore content ++ " \x7d"

/-- The text of tokens. -/
def Token.textAll : List Token → String
  | [] => ""
  | token :: rest => token.text ++ Token.textMore rest

/-- The text of tokens after another one. -/
def Token.textMore : List Token → String
  | [] => ""
  | token :: rest => " " ++ token.text ++ Token.textMore rest

end

namespace Code

/-- The text of code. -/
def text (code : Code) : String := Token.textAll code

/-- Words in a row. -/
def words (texts : List String) : Code := texts.map .word

/-- A path of names, with double colons between them. -/
def path : List String → Code
  | [] => []
  | [name] => [.word name]
  | name :: rest => .word name :: .word "::" :: path rest

/-- Pieces with commas between them. -/
def commaSeparated : List Code → Code
  | [] => []
  | [piece] => piece
  | piece :: rest => piece ++ .word "," :: commaSeparated rest

/-- Arguments between round brackets. -/
def arguments (pieces : List Code) : Code := [.group .round (commaSeparated pieces)]

/-- A string literal. -/
def string (text : String) : Code := [.quoted text]

/-- A truth value. -/
def bool (value : Bool) : Code := [.word (if value then "true" else "false")]

/-- A call of a method, as an expression. -/
def method (name : String) (pieces : List Code) : Code := words [".", name] ++ arguments pieces

/-- A call of a method on a handle, as a statement. -/
def call (handle name : String) (pieces : List Code) : Code :=
  .word handle :: method name pieces ++ [.word ";"]

/-- A call of a method with one text as argument, if there is a text. -/
def callOption (handle name : String) : Option String → Code
  | none => []
  | some text => call handle name [string text]

end Code

end ProcessCompiler
