import ProcessCompiler.Proofs.Origins

/-!
# Definitions written and read back

What is read from a document is written in one way, with what has its default left out. Reading that gives the same data
again, from a text and from a value: the room that the first document took is enough for the second, a field that is
left out is lacking with the value that it had, and what stands for none is never the value of a field that is there.

* `Reader.Rereads`: what one reader gives, another gives again for what it is written as.
* `Record.Rereads.read`: records whose fields are read again are read again.
* `ProcessDefinition.read_again_of_ofText`: a definition that was read from a text is read again from the text and from
  the value that it is written as.
-/

namespace ProcessCompiler

namespace Json

section Rereads

variable {α : Type} {h : Nat}

/-- **What the one reader gives for any document, the other gives for what it is written as**, from the same origin, if
that is lower than `h`. -/
def Reader.Rereads (h : Nat) (reader reader' : Reader α) (write : α → Value) : Prop :=
  ∀ ⦃origin : Origin⦄ ⦃tree : Tree⦄ ⦃a : α⦄, (Tree.ofValue (write a)).height < h → reader origin tree = .ok a →
    reader' origin (.ofValue (write a)) = .ok a

namespace Reader.Rereads

variable {reader reader' : Reader α} {write : α → Value}

theorem mono {lower : Nat} (rereads : reader.Rereads h reader' write) (le : lower ≤ h) :
    reader.Rereads lower reader' write :=
  fun _ _ _ low read => rereads (Nat.lt_of_lt_of_le low le) read

theorem zero : reader.Rereads 0 reader' write := fun _ _ _ low => absurd low (Nat.not_lt_zero _)

theorem string : Reader.string.Rereads h Reader.string .string := fun _ _ _ _ _ => rfl

theorem enumeration {known : List (String × α)} {name : α → String}
    (named : ∀ a, SortedMap.lookupEntry (name a) known = some a) :
    (Reader.enumeration known).Rereads h (Reader.enumeration known) fun a => .string (name a) :=
  fun _ _ a _ _ => enumeration_eq_ok_iff.2 ⟨name a, .inl rfl, named a⟩

theorem list (rereads : reader.Rereads h reader' write) :
    reader.list.Rereads (h + 1) reader'.list fun as => .array (as.map write) := by
  intro origin tree as low read
  obtain ⟨inside, entered, each⟩ := exists_of_mem_list read
  refine list_array_eq_ok_iff.2 ⟨inside, entered, List.forall₂_map_left_iff.2 (List.forall₂_same.2 fun a among => ?_)⟩
  obtain ⟨item, read⟩ := each a among
  have below := height_lt_of_mem_items (List.mem_map_of_mem (f := write) among)
  exact rereads (Nat.lt_of_lt_of_le below (Nat.le_of_lt_succ low)) read

theorem map (rereads : reader.Rereads h reader' write) :
    reader.map.Rereads (h + 1) reader'.map fun m => .object (m.entries.map fun e => (e.1, write e.2)) := by
  intro origin tree values low read
  obtain ⟨inside, entered, each⟩ := exists_of_find?_map read
  have again : ∀ name a, values.find? name = some a → reader' inside (.ofValue (write a)) = .ok a := by
    intro name a found
    obtain ⟨item, read⟩ := each name a found
    have among := List.mem_map_of_mem (f := fun e : String × α => (e.1, write e.2))
      ((values.mem_entries_iff name a).2 found)
    have below := height_lt_of_mem_fields among
    exact rereads (Nat.lt_of_lt_of_le below (Nat.le_of_lt_succ low)) read
  refine map_object_eq_ok_iff.2 ⟨inside, entered, ?_, fun name => ?_⟩
  · intro f among
    obtain ⟨⟨name, a⟩, listed, rfl⟩ := List.mem_map.1 among
    exact ⟨a, again name a ((values.mem_entries_iff name a).1 listed)⟩
  · rw [occurrences_map, occurrences_entries]
    cases found : values.find? name with
    | none => rfl
    | some a => simp [again name a found, Except.toOption]

theorem any : Reader.Rereads h Reader.any Reader.any id := by
  induction h with
  | zero => exact zero
  | succ h ih =>
    intro origin tree v low read
    match tree with
    | .null | .bool _ | .number (.ok _) | .string (.ok _) =>
      cases read
      rfl
    | .number (.error _) | .string (.error _) | .brokenWord _ | .absent _ => cases read
    | .keyless _ =>
      obtain ⟨_, _, read⟩ := Except.bind_eq_ok_iff.1 read
      cases read
    | .array items ending =>
      rw [any_array] at read
      obtain ⟨values, given, rfl⟩ := map_eq_ok_iff.1 read
      have again := ih.list (by simpa only [List.map_id, id_eq] using low) given
      simp only [List.map_id] at again
      exact (any_array ..).trans (map_eq_ok_iff.2 ⟨values, again, rfl⟩)
    | .object fields ending =>
      rw [any_object] at read
      obtain ⟨values, given, rfl⟩ := map_eq_ok_iff.1 read
      have same : values.entries.map (fun e => (e.1, id e.2)) = values.entries := List.map_id _
      have again := ih.map (by simpa using low) given
      simp only [same] at again
      exact (any_object ..).trans (map_eq_ok_iff.2 ⟨values, again, rfl⟩)

end Reader.Rereads

/-! ## Records -/

/-- What the one field yields comes back through the other. -/
def Field.Rereads (h : Nat) (origin : Origin) (field field' : Field α) : Prop :=
  ∀ ⦃value : α⦄, (field'.omitted value = false → (Tree.ofValue (field'.codec.write value)).height < h) →
    field.Yields origin value → field'.Returns origin value

/-- Null stands for none only: a document that is there is not read as what is written as null. -/
def Codec.Solid (codec codec' : Codec α) : Prop :=
  ∀ ⦃origin : Origin⦄ ⦃tree : Tree⦄ ⦃a : α⦄, tree ≠ .null → codec.read origin tree = .ok a → codec'.write a ≠ .null

namespace Codec

theorem solid_string : Codec.string.Solid Codec.string := fun _ _ _ _ _ => nofun

theorem solid_any : Codec.any.Solid Codec.any := by
  rintro origin tree _ there read rfl
  match tree with
  | .null => exact there rfl
  | .bool _ | .number (.ok _) | .string (.ok _) => cases read
  | .number (.error _) | .string (.error _) | .brokenWord _ | .absent _ => cases read
  | .keyless _ =>
    obtain ⟨_, _, read⟩ := Except.bind_eq_ok_iff.1 read
    cases read
  | .array items ending =>
    obtain ⟨_, _, same⟩ := map_eq_ok_iff.1 ((Reader.any_array ..).symm.trans read)
    cases same
  | .object fields ending =>
    obtain ⟨_, _, same⟩ := map_eq_ok_iff.1 ((Reader.any_object ..).symm.trans read)
    cases same

end Codec

namespace Field.Rereads

variable {origin : Origin} {codec codec' : Codec α}

theorem required (name : String) (rereads : codec.read.Rereads h codec'.read codec'.write) :
    Field.Rereads h origin (.required name codec) (.required name codec') := by
  intro value low yields
  obtain ⟨tree, read⟩ | absent | cut := yields
  · exact rereads (low rfl) read
  · cases absent
  · cases cut

theorem optional (name : String) (rereads : codec.read.Rereads h codec'.read codec'.write)
    (solid : codec.Solid codec') :
    Field.Rereads h origin (.optional name codec) (.optional name codec') := by
  intro value low yields
  cases value with
  | none => rfl
  | some a =>
    obtain ⟨tree, read⟩ | absent | cut := yields
    · have there : tree ≠ .null := by
        rintro rfl
        cases read
      obtain ⟨_, read, same⟩ := map_eq_ok_iff.1 ((Reader.optional_of_ne_null there).symm.trans read)
      cases same
      have written : Tree.ofValue (codec'.write a) ≠ .null := fun null =>
        solid there read (Tree.ofValue_eq_null_iff.1 null)
      exact (Reader.optional_of_ne_null written).trans (map_eq_ok_iff.2 ⟨a, rereads (low rfl) read, rfl⟩)
    · cases absent
    · cases cut

theorem withDefault (name : String) (rereads : codec.read.Rereads h codec'.read codec'.write) {default : α}
    {omitted : α → Bool} (only : ∀ value, omitted value = true → value = default)
    (own : omitted default = false → codec'.read origin (.ofValue (codec'.write default)) = .ok default) :
    Field.Rereads h origin (.withDefault name codec default omitted) (.withDefault name codec' default omitted) := by
  intro value low yields
  rw [Field.Returns]
  split
  · next left => rw [only value left]; rfl
  · next kept =>
    have kept := Bool.not_eq_true _ ▸ kept
    obtain ⟨tree, read⟩ | absent | cut := yields
    · exact rereads (low kept) read
    · cases absent
      exact own kept
    · cases cut
      exact own kept

end Field.Rereads

/-- Two records of which each field of the one comes back through that of the other. -/
inductive Record.Rereads (h : Nat) (origin : Origin) : {σ τ : Type} → Record σ τ → Record σ τ → Prop where
  | nil : Record.Rereads h origin .nil .nil
  | cons {α σ τ : Type} {field field' : Field α} {rest rest' : Record σ τ} :
    field.Rereads h origin field' → rest.Rereads h origin rest' →
      Record.Rereads h origin (.cons field rest) (.cons field' rest')

namespace Record.Rereads

variable {σ τ : Type} {record record' : Record σ τ} {origin : Origin}

theorem returns (rereads : record.Rereads h origin record') {values : τ}
    (low : ∀ f ∈ record'.write values, (Tree.ofValue f.2).height < h) (yields : record.Yields origin values) :
    record'.Returns origin values := by
  induction rereads with
  | nil => trivial
  | @cons _ _ _ _ field' _ _ rereads _ ih =>
    obtain ⟨value, values⟩ := values
    obtain ⟨front, behind⟩ := yields
    rw [Record.write] at low
    split at low
    · next left => exact ⟨rereads (fun kept => absurd left (by rw [kept]; decide)) front, ih low behind⟩
    · next kept =>
      obtain ⟨first, others⟩ := List.forall_mem_cons.1 low
      exact ⟨rereads (fun _ => first) front, ih others behind⟩

/-- **A record that was read is read again from the object that it is written as.** -/
theorem read (distinct : record'.names.Nodup) {name : String} {tree : Tree} {values : τ}
    (rereads : ∀ inside, origin.enter = .ok inside → record.Rereads h inside record')
    (low : (Tree.ofValue (.object (record'.write values))).height < h + 1)
    (read : record.read name origin tree = .ok values) :
    record'.read name origin (.ofValue (.object (record'.write values))) = .ok values := by
  obtain ⟨inside, entered, yields⟩ := yields_of_read read
  have lower (f : String × Value) (among : f ∈ record'.write values) : (Tree.ofValue f.2).height < h :=
    Nat.lt_of_lt_of_le (height_lt_of_mem_fields among) (Nat.le_of_lt_succ low)
  exact (read_object_eq_ok_iff distinct).2
    ⟨inside, entered, fits_write distinct ((rereads inside entered).returns lower yields)⟩

theorem codec {β : Type} (distinct : record.names.Nodup) (rereads : ∀ inside, record.Rereads h inside record)
    (name : String) {make : τ → β} {fields : β → τ} (back : ∀ values, fields (make values) = values) :
    (record.codec name make fields).read.Rereads (h + 1) (record.codec name make fields).read
      (record.codec name make fields).write := by
  intro origin tree b low read
  obtain ⟨values, given, rfl⟩ := map_eq_ok_iff.1 read
  refine map_eq_ok_iff.2 ⟨values, ?_, rfl⟩
  simp only [Record.codec, back] at low ⊢
  exact Rereads.read distinct (fun inside _ => rereads inside) low given

end Record.Rereads

end Rereads

end Json

/-! ## Definitions -/

section Definitions

open Json

variable {h : Nat} {origin : Origin}

theorem Variable.rereads : Variable.codec.read.Rereads h Variable.codec.read Variable.codec.write := by
  have named : ∀ type : VariableType, SortedMap.lookupEntry type.name VariableType.byName = some type := by
    intro type
    cases type <;> rfl
  have record (inside : Origin) : variableRecord.Rereads h inside variableRecord :=
    .cons (.required _ (.enumeration named)) <|
    .cons (.optional _ .any Codec.solid_any) <|
    .cons (.optional _ .string Codec.solid_string) .nil
  exact (Record.Rereads.codec (by decide) record _ fun _ => rfl).mono (Nat.le_succ h)

theorem Connection.rereads : Connection.codec.read.Rereads h Connection.codec.read Connection.codec.write := by
  have record (inside : Origin) : connectionRecord.Rereads h inside connectionRecord :=
    .cons (.required _ .string) <| .cons (.required _ .string) <|
    .cons (.optional _ .string Codec.solid_string) .nil
  exact (Record.Rereads.codec (by decide) record _ fun _ => rfl).mono (Nat.le_succ h)

theorem Variable.solid_map : (Codec.map Variable.codec).Solid (Codec.map Variable.codec) := fun _ _ _ _ _ => nofun

theorem NodeDefinition.writeAll_eq_map (nodes : List NodeDefinition) :
    NodeDefinition.writeAll nodes = nodes.map NodeDefinition.write := by
  induction nodes with
  | nil => rfl
  | cons node nodes ih => rw [NodeDefinition.writeAll, ih, List.map_cons]

/-- The nodes of a node as JSON, and how they are read in a document of at most the given height. -/
def NodeDefinition.children (height : Nat) : Codec (List NodeDefinition) :=
  ⟨Reader.list (NodeDefinition.readWithin height), fun nodes => .array (nodes.map NodeDefinition.write)⟩

theorem NodeDefinition.write_eq (height : Nat) (node : NodeDefinition) :
    node.write = .object ((nodeRecord (NodeDefinition.children height)).write
      (node.id, node.type, node.name, node.attributes, node.declarations, node.nodes, node.connections, ())) := by
  match node with
  | ⟨id, type, name, attributes, declarations, none, connections⟩ =>
    rw [NodeDefinition.write]
    rfl
  | ⟨id, type, name, attributes, declarations, some nodes, connections⟩ =>
    rw [NodeDefinition.write, NodeDefinition.writeAll_eq_map]
    rfl

theorem NodeDefinition.readWithin_eq_ok_iff {n : Nat} {tree : Tree} {node : NodeDefinition} :
    NodeDefinition.readWithin (n + 1) origin tree = .ok node ↔
      (nodeRecord ⟨Reader.list (NodeDefinition.readWithin n), fun _ => .null⟩).read "NodeDefinition" origin tree =
        .ok (node.id, node.type, node.name, node.attributes, node.declarations, node.nodes, node.connections, ()) := by
  rw [NodeDefinition.readWithin, Except.bind_eq_ok_iff]
  constructor
  · rintro ⟨⟨id, type, name, attributes, declarations, nodes, connections, _⟩, given, done⟩
    cases done
    exact given
  · intro given
    refine ⟨_, given, ?_⟩
    cases node
    rfl

/-- How nodes in a node are written makes no difference to what is read. -/
theorem NodeDefinition.readWithin_object_eq_ok_iff {n : Nat} {fields : List (String × Value)}
    {node : NodeDefinition} : NodeDefinition.readWithin (n + 1) origin (.ofValue (.object fields)) = .ok node ↔
      (nodeRecord (NodeDefinition.children n)).read "NodeDefinition" origin (.ofValue (.object fields)) =
        .ok (node.id, node.type, node.name, node.attributes, node.declarations, node.nodes, node.connections, ()) := by
  rw [readWithin_eq_ok_iff, Record.read_object_eq_ok_iff (nodup_names_nodeRecord _),
    Record.read_object_eq_ok_iff (nodup_names_nodeRecord _)]
  exact Iff.rfl

/-- A node that was read is read again from what it is written as, with all the fuel that this takes. -/
theorem NodeDefinition.rereads_readWithin (n : Nat) :
    (NodeDefinition.readWithin n).Rereads h (NodeDefinition.readWithin h) NodeDefinition.write := by
  induction h generalizing n with
  | zero => exact .zero
  | succ h ih =>
    intro origin tree node low read
    cases n with
    | zero => cases read
    | succ n =>
      have record (inside : Origin) :
          (nodeRecord ⟨Reader.list (readWithin n), fun _ => .null⟩).Rereads h inside (nodeRecord (children h)) :=
        .cons (.required _ .string) <| .cons (.required _ .string) <|
        .cons (.optional _ .string Codec.solid_string) <|
        .cons (.withDefault _ (Reader.Rereads.any.map.mono (Nat.le_succ h))
          (fun _ => SortedMap.eq_empty_of_isEmpty) nofun) <|
        .cons (.optional _ (Variable.rereads.map.mono (Nat.le_succ h)) Variable.solid_map) <|
        .cons (.optional _ ((ih n).list.mono (Nat.le_succ h)) fun _ _ _ _ _ => nofun) <|
        .cons (.withDefault _ (Connection.rereads.list.mono (Nat.le_succ h)) (fun _ => List.isEmpty_iff.1) nofun) .nil
      rw [write_eq h] at low ⊢
      exact readWithin_object_eq_ok_iff.2 (Record.Rereads.read (nodup_names_nodeRecord _)
        (fun inside _ => record inside) low (readWithin_eq_ok_iff.1 read))

theorem NodeDefinition.rereads : NodeDefinition.read.Rereads h NodeDefinition.read NodeDefinition.write :=
  fun _ _ _ _ read => rereads_readWithin _ (Nat.lt_succ_self _) read

theorem Json.Reader.read_of_ofText {α : Type} {reader : Reader α} {text : String} {a : α}
    (read : reader.ofText text = .ok a) : reader .wholeText (Tree.ofText text).1 = .ok a := by
  rw [Reader.ofText] at read
  generalize Tree.ofText text = spelt at read ⊢
  obtain ⟨value, given, done⟩ := Except.bind_eq_ok_iff.1 read
  split at done
  · cases done
    exact given
  · cases done

/-- A definition that was read from a text is read again from what it is written as, in the room of a text. -/
theorem ProcessDefinition.rereads {tree : Tree} {d : ProcessDefinition}
    (read : ProcessDefinition.codec.read .wholeText tree = .ok d) :
    ProcessDefinition.codec.read .wholeText (.ofValue d.write) = .ok d := by
  obtain ⟨values, given, rfl⟩ := map_eq_ok_iff.1 read
  -- The list of nodes is written even if it is empty, and takes room that a text always has.
  have record (h : Nat) : processRecord.Rereads h (.text 126) processRecord :=
    .cons (.required _ .string) <| .cons (.optional _ .string Codec.solid_string) <|
    .cons (.optional _ .string Codec.solid_string) <|
    .cons (.withDefault _ (Variable.rereads.map.mono (Nat.le_succ h)) (fun _ => SortedMap.eq_empty_of_isEmpty) nofun) <|
    .cons (.withDefault _ (NodeDefinition.rereads.list.mono (Nat.le_succ h)) (fun _ => nofun) fun _ => rfl) <|
    .cons (.withDefault _ (Connection.rereads.list.mono (Nat.le_succ h)) (fun _ => List.isEmpty_iff.1) nofun) .nil
  refine map_eq_ok_iff.2 ⟨values, ?_, rfl⟩
  refine Record.Rereads.read (by decide) (fun inside entered => ?_) (Nat.lt_succ_self _) given
  cases entered
  exact record _

/-- **A definition that was read from a text is read again from the text that it is printed as, and from the value that
it is written as**, if no number that is written is a double. So it is printed as the same text again. -/
theorem ProcessDefinition.read_again_of_ofText {text : String} {d : ProcessDefinition}
    (read : ProcessDefinition.ofText text = .ok d) (exact : d.write.isExact = true) :
    ProcessDefinition.ofText d.write.compact = .ok d ∧ ProcessDefinition.ofValue d.write.sorted = .ok d := by
  have again := ProcessDefinition.rereads (Reader.read_of_ofText read)
  constructor
  · rw [ProcessDefinition.ofText, Reader.ofText_compact _ exact]
    exact again
  · exact ProcessDefinition.carries (A := .ascending) (Nat.lt_succ_self _) trivial again

/-- A definition with what is not written again: fields that are null, empty or unknown, a name twice, arrays for
records, and a type as an object. -/
def variedValue : Value :=
  .object [
    ("version", .null),
    ("id", .string "orders"),
    ("extra", .array [.array []]),
    ("variables", .object [
      ("total", .array [.string "number", .null, .string "sum"]),
      ("paid", .object [("type", .string "string")]),
      ("paid", .object [("type", .object [("boolean", .null)]),
        ("value", .array [.bool true, .number (.integer (-2) (by decide))])])]),
    ("nodes", .array [
      .object [("id", .string "box"), ("type", .string "sub"), ("variables", .object []), ("nodes", .array [
        .array [.string "open", .string "start", .null, .object [("a", .object [("y", .bool false), ("x", .null)])],
          .null, .null, .array []]])],
      .object [("type", .string "end"), ("id", .string "done"), ("nodes", .null), ("name", .null)]]),
    ("connections", .array [])]

/-- The same definition as it is written. -/
def variedValueAgain : Value :=
  .object [
    ("id", .string "orders"),
    ("variables", .object [
      ("paid", .object [("type", .string "boolean"),
        ("value", .array [.bool true, .number (.integer (-2) (by decide))])]),
      ("total", .object [("type", .string "number"), ("description", .string "sum")])]),
    ("nodes", .array [
      .object [("id", .string "box"), ("type", .string "sub"), ("variables", .object []), ("nodes", .array [
        .object [("id", .string "open"), ("type", .string "start"),
          ("attributes", .object [("a", .object [("x", .null), ("y", .bool false)])])]])],
      .object [("id", .string "done"), ("type", .string "end")]])]

/-- The text of the value is that of a definition, and this is how it is printed. -/
theorem exists_ofText_variedValue : ∃ d, ProcessDefinition.ofText variedValue.compact = .ok d ∧
    d.write.isExact = true ∧ d.write.compact = variedValueAgain.compact := by
  have read : (ProcessDefinition.codec.read .wholeText (.ofValue variedValue)).toOption.map
      (fun d => (d.write.isExact, d.write.print)) = some (true, variedValueAgain.print) := by decide +kernel
  obtain ⟨d, given, same⟩ := Option.map_eq_some_iff.1 read
  obtain ⟨exact, printed⟩ := Prod.ext_iff.1 same
  refine ⟨d, ?_, exact, congrArg String.ofList printed⟩
  rw [ProcessDefinition.ofText, Reader.ofText_compact _ (by decide +kernel)]
  exact Except.toOption_eq_some_iff.1 given

theorem read_again_of_ofText_varied : ∃ d, ProcessDefinition.ofText variedValue.compact = .ok d ∧
    ProcessDefinition.ofText variedValueAgain.compact = .ok d ∧ ProcessDefinition.ofValue d.write.sorted = .ok d := by
  obtain ⟨d, read, exact, printed⟩ := exists_ofText_variedValue
  obtain ⟨fromText, fromValue⟩ := ProcessDefinition.read_again_of_ofText read exact
  exact ⟨d, read, printed ▸ fromText, fromValue⟩

end Definitions

end ProcessCompiler
