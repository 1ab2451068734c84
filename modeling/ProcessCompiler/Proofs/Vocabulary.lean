import ProcessCompiler.Proofs.Instructions
import ProcessCompiler.Proofs.Reading

/-!
# The words of generated code

Texts of a definition stand in generated code as string literals and in the handles of builders, never as other words.
So the keywords stand where they are meant, and the name of the helper that evaluates conditions stands in the calls
that pass it to a builder.

* `Code.mem_names_of_passed`: what is passed to a call stands for itself there.
* `Code.special`: the keywords, and the name of the helper.
* `BuiltinType.callsAvoid_calls`: the calls of a builder have no keyword in them, and the helper in some cases only.
* `BuiltinType.Drafted.reads`: the code of a node binds the node's builder.
-/

namespace ProcessCompiler

/-- The words that the reading of code turns on: the keywords, and the name of a helper. -/
def Code.special : List String := conditionHelper :: Code.keywords

/-! ## The names in pieces of code -/

namespace Code

variable {name : String}

/-- A path that goes on behind a token takes names away. -/
theorem mem_names_of_continued {continued : Bool} {token : Token} (h : name ∈ token.names continued) :
    name ∈ token.names false := by
  cases token with
  | word text =>
    unfold Token.names at h
    split at h
    · cases h
    · exact h
  | quoted text => exact h
  | group brackets content => exact h

theorem mem_names_cons {token : Token} {code : Code} (h : name ∈ Code.names (token :: code)) :
    name ∈ token.names false ∨ name ∈ code.names := by
  rw [names, Token.namesAll, List.mem_append] at h
  exact h.imp_left mem_names_of_continued

theorem mem_names_append {code more : Code} (h : name ∈ Code.names (code ++ more)) :
    name ∈ code.names ∨ name ∈ more.names := by
  induction code with
  | nil => exact .inr h
  | cons token code ih =>
    rw [List.cons_append, names, Token.namesAll, List.mem_append] at h
    rw [names, Token.namesAll, List.mem_append, or_assoc]
    rcases h with here | behind
    · apply Or.inl
      cases code with
      | nil => exact mem_names_of_continued here
      | cons next code =>
        have same : goesOn (next :: code ++ more) = goesOn (next :: code) := by cases next <;> rfl
        rw [same] at here
        exact here
    · exact .inr (ih behind)

theorem mem_names_words {texts : List String} (h : name ∈ (words texts).names) : name ∈ texts := by
  induction texts with
  | nil => cases h
  | cons text texts ih =>
    rcases mem_names_cons h with here | behind
    · rw [List.mem_singleton.1 here]
      exact List.mem_cons_self
    · exact List.mem_cons_of_mem _ (ih behind)

/-- The names of a path stand for themselves only at its end. -/
theorem mem_names_path {first : String} {members : List String} (some : members ≠ [])
    (h : name ∈ (path (first :: members)).names) : name = "::" ∨ name ∈ members := by
  induction members generalizing first with
  | nil => exact absurd rfl some
  | cons next members ih =>
    have rest : name = "::" ∨ name ∈ (path (next :: members)).names := by
      have shape : path (first :: next :: members) = .word first :: .word "::" :: path (next :: members) := rfl
      have continued : Code.goesOn (.word "::" :: path (next :: members)) = true := rfl
      rw [shape, names, Token.namesAll, continued] at h
      rcases mem_names_cons h with colons | behind
      · exact .inl (List.mem_singleton.1 colons)
      · exact .inr behind
    rcases rest with colons | behind
    · exact .inl colons
    · cases members with
      | nil => exact .inr behind
      | cons more members =>
        rcases ih (by simp) behind with colons | within
        · exact .inl colons
        · exact .inr (List.mem_cons_of_mem _ within)

theorem mem_names_commaSeparated {pieces : List Code} (h : name ∈ (commaSeparated pieces).names) :
    name = "," ∨ ∃ piece ∈ pieces, name ∈ piece.names := by
  induction pieces with
  | nil => cases h
  | cons piece pieces ih =>
    cases pieces with
    | nil => exact .inr ⟨piece, List.mem_cons_self, h⟩
    | cons next pieces =>
      rcases mem_names_append h with here | behind
      · exact .inr ⟨piece, List.mem_cons_self, here⟩
      · rcases mem_names_cons behind with comma | behind
        · exact .inl (List.mem_singleton.1 comma)
        · apply (ih behind).imp_right
          rintro ⟨other, listed, within⟩
          exact ⟨other, List.mem_cons_of_mem _ listed, within⟩

/-! ## Names that are passed -/

theorem names_subset_append (code more : Code) : more.names ⊆ (code ++ more).names := by
  induction code with
  | nil => exact List.Subset.refl _
  | cons token code ih =>
    rw [List.cons_append, names, names, Token.namesAll]
    exact List.subset_append_of_subset_right _ ih

theorem mem_names_commaSeparated_of_mem {pieces : List Code} (passed : words [name] ∈ pieces) :
    name ∈ (commaSeparated pieces).names := by
  induction pieces with
  | nil => cases passed
  | cons piece pieces ih =>
    cases pieces with
    | nil =>
      rw [← List.mem_singleton.1 passed]
      exact List.mem_singleton_self _
    | cons next pieces =>
      have shape : commaSeparated (piece :: next :: pieces) =
          piece ++ .word "," :: commaSeparated (next :: pieces) := rfl
      rw [shape]
      rcases List.mem_cons.1 passed with here | behind
      · rw [← here]
        exact List.mem_cons_self
      · apply names_subset_append
        exact names_subset_append [.word ","] _ (ih behind)

/-- **A name that is passed to a call stands for itself there.** -/
theorem mem_names_of_passed {before after : Code} {handle method : String} {pieces : List Code}
    (passed : words [name] ∈ pieces) : name ∈ (before ++ call handle method pieces ++ after).names := by
  have inside : name ∈ Code.names (.group .round (commaSeparated pieces) :: ([.word ";"] ++ after)) :=
    List.mem_append_left _ (mem_names_commaSeparated_of_mem passed)
  have shape : before ++ call handle method pieces ++ after =
      (before ++ [.word handle, .word ".", .word method]) ++
        .group .round (commaSeparated pieces) :: ([.word ";"] ++ after) := by
    simp [call, Code.method, words, arguments]
  rw [shape]
  exact names_subset_append _ _ inside

end Code

/-! ## Codes without special words -/

namespace Code.Avoids

variable {key : String}

theorem nil : Code.Avoids key [] := List.not_mem_nil

theorem append {code more : Code} (first : Code.Avoids key code) (second : Code.Avoids key more) :
    Code.Avoids key (code ++ more) := by
  intro member
  rcases mem_names_append member with here | behind
  · exact first here
  · exact second behind

theorem cons {text : String} {code : Code} (first : key ≠ text) (second : Code.Avoids key code) :
    Code.Avoids key (.word text :: code) := by
  intro member
  rcases mem_names_cons member with here | behind
  · exact first (List.mem_singleton.1 here)
  · exact second behind

theorem group {brackets : Brackets} {content code : Code} (first : Code.Avoids key content)
    (second : Code.Avoids key code) : Code.Avoids key (.group brackets content :: code) := by
  intro member
  rcases mem_names_cons member with here | behind
  · exact first here
  · exact second behind

theorem string (text : String) : Code.Avoids key (Code.string text) := List.not_mem_nil

/-- Avoided in each of two pieces. -/
theorem pair {first second : Code} (avoid : Code.Avoids key first) (avoid' : Code.Avoids key second) :
    ∀ piece ∈ [first, second], Code.Avoids key piece := by
  simp [avoid, avoid']

variable (special : key ∈ Code.special)

include special

/-- A special word differs from every other. -/
theorem ne_of_special {text : String} (ordinary : text ∉ Code.special) : key ≠ text := by
  rintro rfl
  exact ordinary special

theorem words {texts : List String} (ordinary : ∀ text ∈ texts, text ∉ Code.special) :
    Code.Avoids key (Code.words texts) := by
  intro member
  exact ordinary key (mem_names_words member) special

theorem path {first : String} {members : List String} (some : members ≠ [])
    (ordinary : ∀ name ∈ members, name ∉ Code.special) : Code.Avoids key (Code.path (first :: members)) := by
  intro member
  rcases mem_names_path some member with colons | within
  · exact ne_of_special special (by decide) colons
  · exact ordinary key within special

theorem commaSeparated {pieces : List Code} (avoid : ∀ piece ∈ pieces, Code.Avoids key piece) :
    Code.Avoids key (Code.commaSeparated pieces) := by
  intro member
  rcases mem_names_commaSeparated member with comma | ⟨piece, listed, within⟩
  · exact ne_of_special special (by decide) comma
  · exact avoid piece listed within

theorem arguments {pieces : List Code} (avoid : ∀ piece ∈ pieces, Code.Avoids key piece) :
    Code.Avoids key (Code.arguments pieces) :=
  group (commaSeparated special avoid) nil

theorem argument {piece : Code} (avoid : Code.Avoids key piece) : Code.Avoids key (Code.arguments [piece]) :=
  arguments special (List.forall_mem_singleton.2 avoid)

theorem method {name : String} {pieces : List Code} (ordinary : key ≠ name)
    (avoid : ∀ piece ∈ pieces, Code.Avoids key piece) : Code.Avoids key (Code.method name pieces) :=
  cons (ne_of_special special (by decide)) (cons ordinary (arguments special avoid))

theorem call {handle name : String} {pieces : List Code} (other : key ≠ handle) (ordinary : key ≠ name)
    (avoid : ∀ piece ∈ pieces, Code.Avoids key piece) : Code.Avoids key (Code.call handle name pieces) :=
  cons other (append (method special ordinary avoid) (cons (ne_of_special special (by decide)) nil))

theorem callOption {handle name : String} {text : Option String} (other : key ≠ handle) (ordinary : key ≠ name) :
    Code.Avoids key (Code.callOption handle name text) := by
  cases text with
  | none => exact nil
  | some text =>
    apply call special other ordinary
    intro piece listed
    rw [List.mem_singleton.1 listed]
    exact string text

theorem bool (value : Bool) : Code.Avoids key (Code.bool value) := by
  cases value
  · exact cons (ne_of_special special (by decide)) nil
  · exact cons (ne_of_special special (by decide)) nil

/-! ## Values -/

/-- A text that ends in a digit is no special word. -/
theorem ne_append {text suffix : String} {last : Char} (ends : suffix.toList.getLast? = some last)
    (digit : last.isDigit = true) : key ≠ text ++ suffix := by
  rintro rfl
  have letters : ∀ word ∈ Code.special, word.toList.getLast?.any Char.isDigit = false := by decide
  have whole : (text ++ suffix).toList.getLast? = some last := by
    rw [String.toList_append, List.getLast?_append, ends]
    rfl
  have letter := letters _ special
  rw [whole, Option.any_some, digit] at letter
  cases letter

theorem signedLiteral {negative : Bool} {text suffix : String} {last : Char}
    (ends : suffix.toList.getLast? = some last) (digit : last.isDigit = true) :
    Code.Avoids key (signedLiteral negative (text ++ suffix)) := by
  have number : key ≠ text ++ suffix := ne_append special ends digit
  cases negative
  · exact cons number nil
  · exact cons (ne_of_special special (by decide)) (cons number nil)

theorem valuePath {member : String} (ordinary : member ∉ Code.special) : Code.Avoids key (valuePath member) := by
  apply path special (by simp)
  intro name listed
  rcases List.mem_cons.1 listed with rfl | listed
  · decide
  · rw [List.mem_singleton.1 listed]
    exact ordinary

theorem valueCode (value : Json.Value) : Code.Avoids key value.code := by
  have null : Code.Avoids key (ProcessCompiler.valuePath "Null") := valuePath special (by decide)
  have number : Code.Avoids key (ProcessCompiler.valuePath "Number") := valuePath special (by decide)
  have parsed : ∀ text, Code.Avoids key (parsedText text) := by
    intro text
    refine append (append (append (append (append ?_ ?_) ?_) ?_) ?_) ?_
    · exact path special (by simp) (by decide)
    · exact words special (by decide)
    · exact path special (by simp) (by decide)
    · exact words special (by decide)
    · exact argument special (string text)
    · exact method special (ne_of_special special (by decide)) (List.forall_mem_singleton.2 null)
  cases value with
  | null => exact null
  | bool b =>
    apply append (valuePath special (by decide))
    exact argument special (bool special b)
  | number n =>
    cases n with
    | integer value bounds =>
      apply append number
      apply argument special
      apply append (path special (by simp) (by decide))
      apply argument special
      split
      · exact signedLiteral special (by rfl) (by decide)
      · exact signedLiteral special (by rfl) (by decide)
    | double value =>
      refine append (append (append ?_ ?_) ?_) ?_
      · exact path special (by simp) (by decide)
      · exact argument special (signedLiteral special (by rfl) (by decide))
      · exact method special (ne_of_special special (by decide)) (List.forall_mem_singleton.2 number)
      · exact method special (ne_of_special special (by decide)) (List.forall_mem_singleton.2 null)
  | string text =>
    apply append (valuePath special (by decide))
    apply argument special
    exact append (string text) (method special (ne_of_special special (by decide)) (by simp))
  | array items => exact parsed _
  | object fields => exact parsed _

theorem initialCode (v : Variable) : Code.Avoids key v.initialCode := by
  unfold Variable.initialCode
  split
  · next value _ =>
    apply cons (ne_of_special special (by decide))
    exact argument special (valueCode special value)
  · exact words special (by decide)

theorem resolvedCode (e : ResolvedExpression) (options : Options) : Code.Avoids key (e.code options) := by
  apply append (path special (by simp) (by decide))
  apply arguments special
  apply pair (string e.text)
  apply cons (ne_of_special special (by decide))
  apply group _ nil
  apply commaSeparated special
  intro piece listed
  obtain ⟨r, _, rfl⟩ := List.mem_map.1 listed
  exact string r.name

end Code.Avoids

/-! ## The calls of a builder -/

/-- A word is in none of the calls, neither as a method nor in an argument. -/
def Code.CallsAvoid (key : String) (calls : List (String × List Code)) : Prop :=
  ∀ c ∈ calls, key ≠ c.1 ∧ ∀ piece ∈ c.2, Code.Avoids key piece

namespace Code.CallsAvoid

variable {key : String}

theorem cons {method : String} {pieces : List Code} {calls : List (String × List Code)} (other : key ≠ method)
    (avoid : ∀ piece ∈ pieces, Code.Avoids key piece) (rest : Code.CallsAvoid key calls) :
    Code.CallsAvoid key ((method, pieces) :: calls) :=
  List.forall_mem_cons.2 ⟨⟨other, avoid⟩, rest⟩

theorem one {method : String} {piece : Code} {calls : List (String × List Code)} (other : key ≠ method)
    (avoid : Code.Avoids key piece) (rest : Code.CallsAvoid key calls) :
    Code.CallsAvoid key ((method, [piece]) :: calls) :=
  cons other (List.forall_mem_singleton.2 avoid) rest

theorem nil : Code.CallsAvoid key [] := fun _ listed => absurd listed List.not_mem_nil

theorem append {calls more : List (String × List Code)} (first : Code.CallsAvoid key calls)
    (second : Code.CallsAvoid key more) : Code.CallsAvoid key (calls ++ more) :=
  List.forall_mem_append.2 ⟨first, second⟩

/-- Calls that are made for one thing after the other. -/
theorem map {α : Type} {call : α → String × List Code} {xs : List α}
    (each : ∀ x ∈ xs, Code.CallsAvoid key [call x]) : Code.CallsAvoid key (xs.map call) := by
  intro c listed
  obtain ⟨x, member, rfl⟩ := List.mem_map.1 listed
  exact each x member _ List.mem_cons_self

/-- The code of calls on another handle. -/
theorem code {handle : String} {calls : List (String × List Code)} (special : key ∈ Code.special)
    (other : key ≠ handle) (avoid : Code.CallsAvoid key calls) : Code.Avoids key (Code.calls handle calls) := by
  induction calls with
  | nil => exact Code.Avoids.nil
  | cons c calls ih =>
    obtain ⟨⟨ordinary, pieces⟩, rest⟩ := List.forall_mem_cons.1 avoid
    exact Code.Avoids.append (Code.Avoids.call special other ordinary pieces) (ih rest)

end Code.CallsAvoid

namespace BuiltinType

/-- Whether a node with given attributes passes the helper that evaluates conditions to its builder. -/
def passesHelper (type : BuiltinType) (a : type.Attributes) : Bool :=
  match type, a with
  | .milestone, _ => true
  | .split, (a : SplitAttributes) => a.constraints ≠ []
  | _, _ => false

section Calls

open Code.Avoids Code.CallsAvoid

variable {key : String} (special : key ∈ Code.special)

include special

theorem callsAvoid_receiverCalls (method : String) (ordinary : method ∉ Code.special) (output : Option String) :
    Code.CallsAvoid key (receiverCalls method output) := by
  cases output with
  | none => exact nil
  | some raw => exact one (ne_of_special special ordinary) (string _) nil

/-- A parameter is set to a text or to an expression. -/
theorem callsAvoid_parameterCall (site : Site) (p : String × String) :
    Code.CallsAvoid key [parameterCall site p] := by
  unfold parameterCall
  split
  · exact cons (ne_of_special special (by decide)) (pair (string _) (resolvedCode special _ _)) nil
  · exact cons (ne_of_special special (by decide)) (pair (string _) (string _)) nil

/-- A constraint passes the helper, and has no other special word. -/
theorem callsAvoid_constraintCall (other : key ≠ conditionHelper) (site : Site) (c : Constraint) :
    Code.CallsAvoid key [constraintCall site c] := by
  have priority : Code.Avoids key (Code.words [toString c.priority.toNat ++ "u32"]) :=
    Code.Avoids.cons (ne_append special (by rfl) (by decide)) Code.Avoids.nil
  have helper : Code.Avoids key (Code.words [conditionHelper]) := Code.Avoids.cons other Code.Avoids.nil
  have pieces : ∀ piece ∈ (constraintCall site c).2, Code.Avoids key piece := by
    simp only [constraintCall, List.forall_mem_cons]
    exact ⟨string _, priority, resolvedCode special _ _, helper, by simp⟩
  exact cons (ne_of_special special (by decide)) pieces nil

/-- **The calls of a builder have no special words in them**, but the helper where it is passed. -/
theorem callsAvoid_calls {type : BuiltinType} {a : type.Attributes} {site : Site}
    (passes : key = conditionHelper → type.passesHelper a = false) : Code.CallsAvoid key (type.calls a site) := by
  have ne {text : String} (ordinary : text ∉ Code.special) : key ≠ text := ne_of_special special ordinary
  have expression (e : ResolvedExpression) : Code.Avoids key (e.code site.options) := resolvedCode special e _
  have done : Code.CallsAvoid key [("done", [])] := cons (ne (by decide)) (by simp) nil
  cases type with
  | start =>
    obtain ⟨_ | signal⟩ := a
    · exact done
    · exact one (ne (by decide)) (string signal) done
  | finish => exact one (ne (by decide)) (bool special _) done
  | task =>
    have receives := callsAvoid_receiverCalls special "output" (by decide) (TaskAttributes.output a)
    exact append (one (ne (by decide)) (expression _) receives) done
  | workItem =>
    have parameters : Code.CallsAvoid key ((WorkItemAttributes.parameters a).entries.map (parameterCall site)) :=
      map fun p _ => callsAvoid_parameterCall special site p
    exact append (one (ne (by decide)) (string _) parameters) done
  | split =>
    have kind : Code.Avoids key (site.options.runtimeMember ["SplitKind", (SplitAttributes.kind a).codeName]) := by
      apply path special (by simp)
      cases SplitAttributes.kind a <;> decide
    have constraints : Code.CallsAvoid key ((SplitAttributes.constraints a).map (constraintCall site)) := by
      refine map fun c given => callsAvoid_constraintCall special (fun same => ?_) site c
      have none : SplitAttributes.constraints a = [] := by simpa [passesHelper] using passes same
      rw [none] at given
      cases given
    exact append (one (ne (by decide)) kind constraints) done
  | join =>
    apply one (ne (by decide)) _ done
    apply path special (by simp)
    cases JoinAttributes.kind a <;> decide
  | timer =>
    show Code.CallsAvoid key [delayCall site a, ("done", [])]
    unfold delayCall
    split
    · exact one (ne (by decide)) (expression _) done
    · exact one (ne (by decide)) (string _) done
  | milestone =>
    have other : key ≠ conditionHelper := fun same => absurd (passes same) (by simp [passesHelper])
    have helper : Code.Avoids key (Code.words [conditionHelper]) := Code.Avoids.cons other Code.Avoids.nil
    exact cons (ne (by decide)) (pair (expression _) helper) done
  | subProcess => exact one (ne (by decide)) (bool special _) nil
  | forEach =>
    have receives := callsAvoid_receiverCalls special "output_collection" (by decide)
      (ForEachAttributes.output a)
    exact one (ne (by decide)) (expression _) (one (ne (by decide)) (string _) receives)
  | eventSubProcess => exact one (ne (by decide)) (string _) nil

end Calls

end BuiltinType

/-! ## Instructions -/

section Instructions

open Code.Avoids

variable {key : String} (special : key ∈ Code.special)

include special

theorem avoids_declareVariable {options : Options} {handle : String} (other : key ≠ handle)
    (entry : String × Variable) : Code.Avoids key (declareVariable options handle entry).code := by
  have type : Code.Avoids key (options.runtimeMember ["DataType", entry.2.type.codeName]) := by
    apply path special (by simp)
    cases entry.2.type <;> decide
  apply call special other (ne_of_special special (by decide))
  exact List.forall_mem_cons.2 ⟨string _, pair type (initialCode special _)⟩

theorem avoids_connect {handle : String} (other : key ≠ handle) (c : Connection) :
    Code.Avoids key (connect handle c).code := by
  unfold connect
  split
  · apply call special other (ne_of_special special (by decide))
    exact List.forall_mem_cons.2 ⟨string _, pair (string _) (string _)⟩
  · exact call special other (ne_of_special special (by decide)) (pair (string _) (string _))

theorem avoids_doneCode {handle : String} (other : key ≠ handle) : Code.Avoids key (doneCode handle) :=
  call special other (ne_of_special special (by decide)) (by simp)

end Instructions

/-! ## The code of nodes -/

theorem Code.mem_special_of_keyword {key : String} (keyword : key ∈ Code.keywords) : key ∈ Code.special :=
  List.mem_cons_of_mem _ keyword

namespace NodeHeader

/-- What stands behind the first words of the code that creates the builder of a node. -/
def boundCode (node : NodeHeader) (factory method factoryType handle : String) : Code :=
  Code.words [handle, ":", factoryType, "="] ++ Code.call factory method [Code.string node.id] ++
    Code.call handle "metadata" [Code.string "UniqueId", Code.string node.uniqueId] ++
    Code.callOption handle "name" node.name

variable {node : NodeHeader} {factory method factoryType handle : String}

theorem builderCode_eq : node.builderCode factory method factoryType handle =
    .word "let" :: .word "mut" :: node.boundCode factory method factoryType handle := rfl

theorem binding?_boundCode (rest : Code) :
    Code.binding? (.word "mut" :: node.boundCode factory method factoryType handle ++ rest) =
      some (handle, factoryType) := rfl

theorem avoids_boundCode {key : String} (special : key ∈ Code.special) (other : key ≠ factory) (other' : key ≠ handle)
    (ordinary : method ∉ Code.special) (ordinary' : factoryType ∉ Code.special) :
    Code.Avoids key (node.boundCode factory method factoryType handle) := by
  have ne {text : String} (ordinary : text ∉ Code.special) : key ≠ text := Code.Avoids.ne_of_special special ordinary
  refine .append (.append (.append ?_ ?_) ?_) ?_
  · exact .cons other' (.cons (ne (by decide)) (.cons (ne ordinary') (.cons (ne (by decide)) .nil)))
  · exact .call special other (ne ordinary) (List.forall_mem_singleton.2 (.string _))
  · exact .call special other' (ne (by decide)) (.pair (.string _) (.string _))
  · exact .callOption special other' (ne (by decide))

end NodeHeader

namespace BuiltinType

theorem factoryMethod_notMem_special (type : BuiltinType) : type.factoryMethod ∉ Code.special := by
  cases type <;> decide

theorem factoryType_notMem_special (type : BuiltinType) : type.factoryType ∉ Code.special := by
  cases type <;> decide

variable {type : BuiltinType} {a : type.Attributes} {site : Site} {node : NodeHeader} {own? : Option ScopeId}
  {requests : List Request} {code : String → Code}

/-- **The code of a node binds the node's builder**, and neither imports nor defines anything. -/
theorem Drafted.reads (said : Drafted type a site node own? requests code) {handle : String}
    (plain : site.handle ∉ Code.keywords) (plain' : handle ∉ Code.keywords) :
    Code.Reads (code handle) [] [] [(handle, type.factoryType)] := by
  have avoids : ∀ key ∈ Code.keywords, Code.Avoids key (Code.calls handle (type.calls a site)) := by
    intro key keyword
    have special := Code.mem_special_of_keyword keyword
    apply Code.CallsAvoid.code special (ne_of_mem_of_not_mem keyword plain')
    apply callsAvoid_calls special
    rintro rfl
    exact absurd keyword (by decide)
  have own : Code.Reads (node.builderCode site.handle type.factoryMethod type.factoryType handle) [] []
      [(handle, type.factoryType)] := by
    have behind : Code.Reads (node.boundCode site.handle type.factoryMethod type.factoryType handle) [] [] [] := by
      apply Code.Reads.of_avoids
      intro key keyword
      exact NodeHeader.avoids_boundCode (Code.mem_special_of_keyword keyword) (ne_of_mem_of_not_mem keyword plain)
        (ne_of_mem_of_not_mem keyword plain') type.factoryMethod_notMem_special type.factoryType_notMem_special
    have ordinary : "mut" ∉ Code.keywords := by decide
    rw [NodeHeader.builderCode_eq]
    exact (behind.word ordinary).binding (fun _ => rfl) NodeHeader.binding?_boundCode
  rw [said.built handle]
  exact own.append (.of_avoids avoids)

/-- The code of a node has the helper in it only where the builder gets it. -/
theorem Drafted.avoids_conditionHelper (said : Drafted type a site node own? requests code) {handle : String}
    (other : conditionHelper ≠ site.handle) (other' : conditionHelper ≠ handle)
    (passes : type.passesHelper a = false) : Code.Avoids conditionHelper (code handle) := by
  have special : conditionHelper ∈ Code.special := List.mem_cons_self
  rw [said.built handle]
  apply Code.Avoids.append
  · rw [NodeHeader.builderCode_eq]
    exact .cons (by decide) (.cons (by decide) (NodeHeader.avoids_boundCode special other other'
      type.factoryMethod_notMem_special type.factoryType_notMem_special))
  · exact Code.CallsAvoid.code special other' (callsAvoid_calls special fun _ => passes)

end BuiltinType

end ProcessCompiler
