import ProcessCompiler.Program

/-!
# Reading generated code

What a program imports, defines and binds is read off its tokens, at whatever depth they stand. Each of these starts
with a keyword. A name from which a path goes on is no keyword, whatever the name is.

* `Code.names`: the names in code that stand for themselves.
* `Code.uses`, `Code.functions`, `Code.bindings`: what code imports, defines and binds.
* `Token.scanAll_append`: nothing is found where the keyword does not stand.
* `Code.Reads`: what is read off code, whatever stands behind it.
-/

namespace ProcessCompiler

/-! ## Names -/

/-- Whether code goes on with a double colon. -/
def Code.goesOn : Code → Bool
  | .word text :: _ => text = "::"
  | _ => false

mutual

/-- The names in a token; `continued` says that a path goes on behind it. -/
def Token.names (continued : Bool) : Token → List String
  | .word text => if continued then [] else [text]
  | .quoted _ => []
  | .group _ content => Token.namesAll content

/-- The names in tokens. -/
def Token.namesAll : List Token → List String
  | [] => []
  | token :: rest => token.names (Code.goesOn rest) ++ Token.namesAll rest

end

/-- **The names in code that stand for themselves**, at any depth: words from which no path goes on. -/
def Code.names (code : Code) : List String := Token.namesAll code

/-! ## Readers -/

section Scans

variable {α : Type}

mutual

/-- What a reader finds inside a token. -/
def Token.scan (read : Code → Option α) : Token → List α
  | .word _ => []
  | .quoted _ => []
  | .group _ content => Token.scanAll read content

/-- What a reader finds at the places of code and inside its groups. -/
def Token.scanAll (read : Code → Option α) : List Token → List α
  | [] => []
  | token :: rest => (read (token :: rest)).toList ++ token.scan read ++ Token.scanAll read rest

end

/-- What is read behind a keyword, if code starts with it. -/
def Code.keyword? (key : String) (read : Code → Option α) : Code → Option α
  | .word text :: rest => if text = key ∧ Code.goesOn rest = false then read rest else none
  | _ => none

end Scans

namespace Code

/-- The names of a path that ends with a semicolon. -/
def path? : Code → Option (List String)
  | .word name :: .word ";" :: _ => some [name]
  | .word name :: .word "::" :: rest => (path? rest).map fun names => name :: names
  | _ => none

/-- The name of a function, and what is between its braces. -/
def function? : Code → Option (String × Code)
  | .word name :: .group .round _ :: .word "->" :: .word _ :: .group .curly content :: _ => some (name, content)
  | _ => none

/-- The name and the type of a variable that may change and has its type written. -/
def binding? : Code → Option (String × String)
  | .word "mut" :: .word name :: .word ":" :: .word type :: .word "=" :: _ => some (name, type)
  | _ => none

/-- The paths that code imports, at any depth. -/
def uses (code : Code) : List (List String) := Token.scanAll (keyword? "use" path?) code

/-- The functions that code defines, at any depth, with what is between their braces. -/
def functions (code : Code) : List (String × Code) := Token.scanAll (keyword? "fn" function?) code

/-- The variables that code binds with their types, at any depth. -/
def bindings (code : Code) : List (String × String) := Token.scanAll (keyword? "let" binding?) code

end Code

/-! ## Where nothing is found -/

theorem Code.goesOn_append {code rest : Code} (h : Code.goesOn code = true) : Code.goesOn (code ++ rest) = true := by
  cases code with
  | nil => cases h
  | cons token more => cases token <;> exact h

section Absent

variable {α : Type} {key : String} {read : Code → Option α}

theorem Token.notMem_of_notMem_cons {token : Token} {more : List Token}
    (absent : key ∉ Token.namesAll (token :: more)) :
    key ∉ token.names (Code.goesOn more) ∧ key ∉ Token.namesAll more := by
  rw [Token.namesAll, List.mem_append, not_or] at absent
  exact absent

/-- A word that is no keyword here is none with more behind it. -/
theorem Code.keyword?_append {token : Token} {more rest : Code} (absent : key ∉ token.names (Code.goesOn more)) :
    Code.keyword? key read (token :: (more ++ rest)) = none := by
  cases token with
  | quoted text => rfl
  | group brackets content => rfl
  | word text =>
    apply if_neg
    rintro ⟨rfl, ends⟩
    cases goes : Code.goesOn more with
    | false =>
      rw [goes] at absent
      exact absent (List.mem_singleton_self _)
    | true =>
      rw [Code.goesOn_append goes] at ends
      cases ends

mutual

theorem Token.scan_eq_nil {continued : Bool} (token : Token) (absent : key ∉ token.names continued) :
    token.scan (Code.keyword? key read) = [] := by
  match token with
  | .word text => rfl
  | .quoted text => rfl
  | .group brackets content =>
    have inside := Token.scanAll_append content absent []
    rw [List.append_nil] at inside
    rw [Token.scan, inside]
    rfl

/-- **Nothing is found where the keyword does not stand.** -/
theorem Token.scanAll_append (code : List Token) (absent : key ∉ Token.namesAll code) (rest : Code) :
    Token.scanAll (Code.keyword? key read) (code ++ rest) = Token.scanAll (Code.keyword? key read) rest := by
  match code with
  | [] => rfl
  | token :: more =>
    obtain ⟨here, behind⟩ := Token.notMem_of_notMem_cons absent
    rw [List.cons_append, Token.scanAll, Code.keyword?_append here, Token.scan_eq_nil token here,
      Token.scanAll_append more behind rest]
    rfl

end

/-- Behind a keyword, the reader finds what it reads, and then what comes behind the keyword. -/
theorem Token.scanAll_keyword {rest : Code} (ends : Code.goesOn rest = false) :
    Token.scanAll (Code.keyword? key read) (.word key :: rest) =
      (read rest).toList ++ Token.scanAll (Code.keyword? key read) rest := by
  rw [Token.scanAll, Code.keyword?, if_pos ⟨rfl, ends⟩, Token.scan, List.append_nil]

/-- Other words are passed over. -/
theorem Token.scanAll_word {text : String} {rest : Code} (other : text ≠ key) :
    Token.scanAll (Code.keyword? key read) (.word text :: rest) = Token.scanAll (Code.keyword? key read) rest := by
  rw [Token.scanAll, Code.keyword?, if_neg (fun h => other h.1), Token.scan]
  rfl

/-- What is inside a group is found where the group stands. -/
theorem Token.scanAll_group {brackets : Brackets} {content rest : Code} :
    Token.scanAll (Code.keyword? key read) (.group brackets content :: rest) =
      Token.scanAll (Code.keyword? key read) content ++ Token.scanAll (Code.keyword? key read) rest := by
  rw [Token.scanAll, Token.scan]
  rfl

end Absent

/-! ## What is read off pieces of code -/

/-- A word is in none of the places where it would stand for itself. -/
def Code.Avoids (key : String) (code : Code) : Prop := key ∉ code.names

instance (key : String) (code : Code) : Decidable (Code.Avoids key code) :=
  inferInstanceAs (Decidable (key ∉ code.names))

/-- The words that start a binding, an import and a function. -/
def Code.keywords : List String := ["let", "use", "fn"]

/-- **What is read off code, whatever stands behind it**: the paths that it imports, the functions that it defines and
the variables that it binds. -/
structure Code.Reads (code : Code) (uses : List (List String)) (functions : List (String × Code))
    (bindings : List (String × String)) : Prop where
  uses : ∀ rest, Code.uses (code ++ rest) = uses ++ Code.uses rest
  functions : ∀ rest, Code.functions (code ++ rest) = functions ++ Code.functions rest
  bindings : ∀ rest, Code.bindings (code ++ rest) = bindings ++ Code.bindings rest

namespace Code.Reads

/-- Nothing is read off code without keywords. -/
theorem of_avoids {code : Code} (avoid : ∀ key ∈ Code.keywords, Code.Avoids key code) : Code.Reads code [] [] [] where
  uses := Token.scanAll_append code (avoid "use" (by decide))
  functions := Token.scanAll_append code (avoid "fn" (by decide))
  bindings := Token.scanAll_append code (avoid "let" (by decide))

theorem nil : Code.Reads [] [] [] [] := of_avoids fun _ _ => List.not_mem_nil

variable {code more : Code} {uses uses' : List (List String)} {functions functions' : List (String × Code)}
  {bindings bindings' : List (String × String)}

theorem append (first : Code.Reads code uses functions bindings) (second : Code.Reads more uses' functions' bindings') :
    Code.Reads (code ++ more) (uses ++ uses') (functions ++ functions') (bindings ++ bindings') where
  uses rest := by rw [List.append_assoc, first.uses, second.uses, List.append_assoc]
  functions rest := by rw [List.append_assoc, first.functions, second.functions, List.append_assoc]
  bindings rest := by rw [List.append_assoc, first.bindings, second.bindings, List.append_assoc]

/-- What is read off code with nothing behind it. -/
theorem alone (h : Code.Reads code uses functions bindings) :
    code.uses = uses ∧ code.functions = functions ∧ code.bindings = bindings := by
  have whole := h.uses []
  have whole' := h.functions []
  have whole'' := h.bindings []
  rw [List.append_nil] at whole whole' whole''
  exact ⟨whole.trans (List.append_nil _), whole'.trans (List.append_nil _), whole''.trans (List.append_nil _)⟩

/-- A group is read like what is in it. -/
theorem group (h : Code.Reads code uses functions bindings) (brackets : Brackets) :
    Code.Reads [.group brackets code] uses functions bindings where
  uses _ := Token.scanAll_group.trans (congrArg (· ++ _) h.alone.1)
  functions _ := Token.scanAll_group.trans (congrArg (· ++ _) h.alone.2.1)
  bindings _ := Token.scanAll_group.trans (congrArg (· ++ _) h.alone.2.2)

/-- A word that is no keyword is passed over. -/
theorem word (h : Code.Reads code uses functions bindings) {text : String} (ordinary : text ∉ Code.keywords) :
    Code.Reads (.word text :: code) uses functions bindings := by
  have other : ∀ key ∈ Code.keywords, text ≠ key := by
    rintro key keyword rfl
    exact ordinary keyword
  exact {
    uses := fun rest => (Token.scanAll_word (other "use" (by decide))).trans (h.uses rest)
    functions := fun rest => (Token.scanAll_word (other "fn" (by decide))).trans (h.functions rest)
    bindings := fun rest => (Token.scanAll_word (other "let" (by decide))).trans (h.bindings rest) }

/-- An import is read behind its keyword. -/
theorem use (h : Code.Reads code uses functions bindings) {path? : Option (List String)}
    (ends : ∀ rest, Code.goesOn (code ++ rest) = false) (read : ∀ rest, Code.path? (code ++ rest) = path?) :
    Code.Reads (.word "use" :: code) (path?.toList ++ uses) functions bindings where
  uses rest := by
    rw [List.cons_append, Code.uses, Token.scanAll_keyword (ends rest), read rest, List.append_assoc]
    exact congrArg _ (h.uses rest)
  functions rest := (Token.scanAll_word (by decide)).trans (h.functions rest)
  bindings rest := (Token.scanAll_word (by decide)).trans (h.bindings rest)

/-- A function is read behind its keyword. -/
theorem function (h : Code.Reads code uses functions bindings) {function? : Option (String × Code)}
    (ends : ∀ rest, Code.goesOn (code ++ rest) = false) (read : ∀ rest, Code.function? (code ++ rest) = function?) :
    Code.Reads (.word "fn" :: code) uses (function?.toList ++ functions) bindings where
  uses rest := (Token.scanAll_word (by decide)).trans (h.uses rest)
  functions rest := by
    rw [List.cons_append, Code.functions, Token.scanAll_keyword (ends rest), read rest, List.append_assoc]
    exact congrArg _ (h.functions rest)
  bindings rest := (Token.scanAll_word (by decide)).trans (h.bindings rest)

/-- A binding is read behind its keyword. -/
theorem binding (h : Code.Reads code uses functions bindings) {binding? : Option (String × String)}
    (ends : ∀ rest, Code.goesOn (code ++ rest) = false) (read : ∀ rest, Code.binding? (code ++ rest) = binding?) :
    Code.Reads (.word "let" :: code) uses functions (binding?.toList ++ bindings) where
  uses rest := (Token.scanAll_word (by decide)).trans (h.uses rest)
  functions rest := (Token.scanAll_word (by decide)).trans (h.functions rest)
  bindings rest := by
    rw [List.cons_append, Code.bindings, Token.scanAll_keyword (ends rest), read rest, List.append_assoc]
    exact congrArg _ (h.bindings rest)

end Code.Reads

end ProcessCompiler
