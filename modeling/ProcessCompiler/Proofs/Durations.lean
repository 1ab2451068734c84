import ProcessCompiler.Proofs.Locality

/-!
# The grammar of delays

A delay is digits, a duration, or a duration that repeats. The grammar is given apart from the scan: as parts, each a
number and its unit, that stand one after the other with units from a list, in its order.

* `Delay.Literal`: the grammar.
* `Delay.countParts_eq_some_iff`: the scan counts the parts of what is made of parts.
* `Delay.isLiteral_iff`: the scan accepts the grammar.
* `accepted_iff_literal`: so does a timer whose delay is not computed.
-/

namespace ProcessCompiler

namespace Delay

/-! ## Grammar -/

/-- One digit or more, and nothing else. -/
def Digits (cs : List Char) : Prop := cs ≠ [] ∧ ∀ c ∈ cs, c.isDigit = true

/-- What comes between the whole of a number and its fraction. -/
def IsMark (c : Char) : Prop := c = '.' ∨ c = ','

/-- **A number and its unit.** Only seconds take a fraction. -/
inductive Part : Char → List Char → Prop
  | whole {unit : Char} {digits : List Char} : Digits digits → Part unit (digits ++ [unit])
  | fraction {mark : Char} {digits places : List Char} : Digits digits → IsMark mark → Digits places →
      Part 'S' (digits ++ mark :: places ++ ['S'])

/-- **Parts one after the other**, with these units. -/
inductive Parts : List Char → List Char → Prop
  | nil : Parts [] []
  | cons {unit : Char} {units part rest : List Char} : Part unit part → Parts units rest →
      Parts (unit :: units) (part ++ rest)

/-- **A duration**: parts of a date, or perhaps none of these and then, behind a `T`, parts of a time. -/
inductive Duration : List Char → Prop
  | date {units date : List Char} : units.Sublist dateUnits → units ≠ [] → Parts units date → Duration ('P' :: date)
  | time {days units date time : List Char} : days.Sublist dateUnits → Parts days date → units.Sublist timeUnits →
      units ≠ [] → Parts units time → Duration ('P' :: date ++ 'T' :: time)

/-- **A delay**: digits, a duration, or a duration that repeats, as often as digits say or for ever. -/
inductive Literal : List Char → Prop
  | milliseconds {cs : List Char} : Digits cs → Literal cs
  | duration {cs : List Char} : Duration cs → Literal cs
  | repeating {count cs : List Char} : (∀ c ∈ count, c.isDigit = true) → Duration cs →
      Literal ('R' :: count ++ '/' :: cs)

/-! ## Parts -/

section Parts

variable {unit : Char} {units us digits part cs rest : List Char} {n : Nat}

/-- Units that come in the order of a list: the first is in it, and the others come in what is behind the first. -/
theorem cons_sublist_iff :
    (unit :: us).Sublist units ↔ ∃ later, unitsAfter unit units = some later ∧ us.Sublist later := by
  induction units with
  | nil => simp [unitsAfter]
  | cons u units ih =>
    by_cases same : u = unit
    · simp [unitsAfter, same]
    · rw [List.cons_sublist_cons', ih]
      simp [unitsAfter, same, Ne.symm same]

theorem Digits.concat {c : Char} (h : Digits cs) (digit : c.isDigit = true) : Digits (cs ++ [c]) := by
  refine ⟨by simp, fun d member => ?_⟩
  rcases List.mem_append.1 member with member | member
  · exact h.2 d member
  · rw [List.mem_singleton.1 member]
    exact digit

theorem Digits.singleton {c : Char} (digit : c.isDigit = true) : Digits [c] :=
  ⟨by simp, by simpa using digit⟩

/-- **What was read of a part at a stage of the scan.** -/
def Begun : Stage → List Char → Prop
  | .start, before => before = []
  | .digits, before => Digits before
  | .point, before => ∃ digits mark, Digits digits ∧ IsMark mark ∧ before = digits ++ [mark]
  | .fraction, before =>
    ∃ digits mark places, Digits digits ∧ IsMark mark ∧ Digits places ∧ before = digits ++ mark :: places

/-- A scan that succeeds has no more to read, or it goes on to the end of a part and counts the parts behind it. -/
theorem exists_part_of_countParts {stage : Stage} {before : List Char} (begun : Begun stage before)
    (counted : countParts stage units cs = some n) :
    (before = [] ∧ cs = [] ∧ n = 0) ∨ ∃ unit part rest later k, before ++ cs = part ++ rest ∧ Part unit part ∧
      unitsAfter unit units = some later ∧ countParts .start later rest = some k ∧ n = k + 1 := by
  fun_induction countParts stage units cs generalizing before n with
  | case1 units => exact .inl ⟨begun, rfl, by simpa using counted.symm⟩
  | case2 stage units notStart => cases counted
  | case3 units c cs digit ih =>
    obtain rfl : before = [] := begun
    exact .inr ((ih (Digits.singleton digit) counted).resolve_left (by simp))
  | case4 units c cs digit => cases counted
  | case5 units c cs digit ih =>
    simpa using ih (begun.concat digit) counted
  | case6 units c cs digit mark ih =>
    simpa using ih ⟨before, c, begun, mark, rfl⟩ counted
  | case7 units c cs digit mark later found ih =>
    obtain ⟨k, inner, rfl⟩ := Option.map_eq_some_iff.1 counted
    exact .inr ⟨c, before ++ [c], cs, later, k, by simp, .whole begun, found, inner, rfl⟩
  | case8 units c cs digit mark missing => cases counted
  | case9 units c cs digit ih =>
    obtain ⟨digits, mark, whole, isMark, rfl⟩ := begun
    have more : Begun .fraction (digits ++ mark :: [c]) := ⟨digits, mark, [c], whole, isMark, .singleton digit, rfl⟩
    simpa using ih more counted
  | case10 units c cs digit => cases counted
  | case11 units c cs digit ih =>
    obtain ⟨digits, mark, places, whole, isMark, some, rfl⟩ := begun
    have more : Begun .fraction (digits ++ mark :: (places ++ [c])) :=
      ⟨digits, mark, places ++ [c], whole, isMark, some.concat digit, rfl⟩
    simpa using ih more counted
  | case12 units cs later digit found ih =>
    obtain ⟨digits, mark, places, whole, isMark, some, rfl⟩ := begun
    obtain ⟨k, inner, rfl⟩ := Option.map_eq_some_iff.1 counted
    exact .inr ⟨'S', _, cs, later, k, by simp, .fraction whole isMark some, found, inner, rfl⟩
  | case13 units cs missing digit => cases counted
  | case14 units c cs digit other => cases counted

/-- A unit that does not go on with the number before it. -/
def EndsNumber (unit : Char) : Prop := unit.isDigit = false ∧ ¬ IsMark unit

theorem endsNumber_of_mem (member : unit ∈ dateUnits ++ timeUnits) : EndsNumber unit := by
  have all : (dateUnits ++ timeUnits).all fun unit => !unit.isDigit && unit != '.' && unit != ',' := by decide
  simpa [EndsNumber, IsMark, and_assoc] using List.all_eq_true.1 all unit member

/-- The stage of the scan behind a digit. -/
def Stage.behindDigit : Stage → Stage
  | .start | .digits => .digits
  | .point | .fraction => .fraction

theorem countParts_digit (stage : Stage) {c : Char} (digit : c.isDigit = true) :
    countParts stage units (c :: cs) = countParts stage.behindDigit units cs := by
  cases stage <;> rw [countParts, if_pos digit] <;> rfl

/-- Digits are read like a single one. -/
theorem Digits.countParts_append (h : Digits digits) (stage : Stage) :
    countParts stage units (digits ++ rest) = countParts stage.behindDigit units rest := by
  obtain ⟨some, all⟩ := h
  induction digits generalizing stage with
  | nil => exact absurd rfl some
  | cons c digits ih =>
    obtain ⟨digit, all⟩ := List.forall_mem_cons.1 all
    rw [List.cons_append, countParts_digit stage digit]
    by_cases last : digits = []
    · rw [last, List.nil_append]
    · rw [ih _ last all]
      cases stage <;> rfl

/-- **A part is counted if its unit may still come.** -/
theorem Part.countParts_append (h : Part unit part) (ends : EndsNumber unit) :
    countParts .start units (part ++ rest) =
      (unitsAfter unit units).bind fun later => (countParts .start later rest).map (· + 1) := by
  cases h with
  | whole digits =>
    obtain ⟨notDigit, notMark⟩ := ends
    simp only [IsMark] at notMark
    rw [List.append_assoc, digits.countParts_append, Stage.behindDigit, List.singleton_append, countParts,
      if_neg (by simp [notDigit]), if_neg notMark]
    cases unitsAfter unit units <;> rfl
  | @fraction mark _ _ digits isMark places =>
    have notDigit : mark.isDigit = false := by rcases isMark with rfl | rfl <;> rfl
    simp only [IsMark] at isMark
    rw [List.append_assoc, List.append_assoc, digits.countParts_append, Stage.behindDigit, List.cons_append, countParts,
      if_neg (by simp [notDigit]), if_pos isMark, places.countParts_append, Stage.behindDigit, List.singleton_append,
      countParts, if_neg (by decide), if_pos rfl]
    cases unitsAfter 'S' units <;> rfl

/-- **The scan counts the parts of what is made of parts**, and accepts nothing else. -/
theorem countParts_eq_some_iff (ends : ∀ u ∈ units, EndsNumber u) : countParts .start units cs = some n ↔
    ∃ us, us.Sublist units ∧ us.length = n ∧ Parts us cs := by
  have begun : Begun .start [] := rfl
  constructor
  · intro counted
    induction n generalizing units cs with
    | zero =>
      obtain ⟨_, rfl, _⟩ | ⟨_, _, _, _, k, _, _, _, _, same⟩ := exists_part_of_countParts begun counted
      · exact ⟨[], List.nil_sublist units, rfl, .nil⟩
      · cases same
    | succ n ih =>
      obtain ⟨_, _, same⟩ | ⟨unit, part, rest, later, k, split, isPart, found, inner, same⟩ :=
        exists_part_of_countParts begun counted
      · cases same
      · cases same
        have sub := cons_sublist_iff.2 ⟨later, found, List.Sublist.refl later⟩
        obtain ⟨us, order, rfl, parts⟩ := ih (fun u member => ends u (sub.subset (List.mem_cons_of_mem _ member))) inner
        rw [List.nil_append] at split
        exact ⟨unit :: us, cons_sublist_iff.2 ⟨later, found, order⟩, rfl, split ▸ .cons isPart parts⟩
  · rintro ⟨us, order, rfl, parts⟩
    induction parts generalizing units with
    | nil => rfl
    | @cons unit us part rest isPart _ ih =>
      obtain ⟨later, found, behind⟩ := cons_sublist_iff.1 order
      have sub := cons_sublist_iff.2 ⟨later, found, List.Sublist.refl later⟩
      have inner := ih (fun u member => ends u (sub.subset (List.mem_cons_of_mem _ member))) behind
      rw [isPart.countParts_append (ends unit (order.subset List.mem_cons_self)), found, Option.bind_some, inner]
      rfl

theorem isSome_countParts_iff (ends : ∀ u ∈ units, EndsNumber u) :
    (countParts .start units cs).isSome = true ↔ ∃ us, us.Sublist units ∧ Parts us cs := by
  rw [Option.isSome_iff_exists]
  constructor
  · rintro ⟨n, counted⟩
    obtain ⟨us, order, _, parts⟩ := (countParts_eq_some_iff ends).1 counted
    exact ⟨us, order, parts⟩
  · rintro ⟨us, order, parts⟩
    exact ⟨us.length, (countParts_eq_some_iff ends).2 ⟨us, order, rfl, parts⟩⟩

theorem any_countParts_iff (ends : ∀ u ∈ units, EndsNumber u) :
    (countParts .start units cs).any (0 < ·) = true ↔ ∃ us, us.Sublist units ∧ us ≠ [] ∧ Parts us cs := by
  rw [Option.any_eq_true]
  constructor
  · rintro ⟨n, counted, positive⟩
    obtain ⟨us, order, rfl, parts⟩ := (countParts_eq_some_iff ends).1 counted
    exact ⟨us, order, List.length_pos_iff.1 (by simpa using positive), parts⟩
  · rintro ⟨us, order, some, parts⟩
    refine ⟨us.length, (countParts_eq_some_iff ends).2 ⟨us, order, rfl, parts⟩, ?_⟩
    simpa using List.length_pos_iff.2 some

end Parts

/-! ## Durations and delays -/

section Delays

variable {separator unit c : Char} {units part cs before after : List Char}

theorem Part.mem (h : Part unit part) (member : c ∈ part) : c.isDigit = true ∨ IsMark c ∨ c = unit := by
  cases h with
  | whole digits =>
    rcases List.mem_append.1 member with member | member
    · exact .inl (digits.2 c member)
    · exact .inr (.inr (List.mem_singleton.1 member))
  | @fraction mark _ _ digits isMark places =>
    simp only [List.mem_append, List.mem_cons, List.not_mem_nil, or_false] at member
    rcases member with (member | rfl | member) | rfl
    · exact .inl (digits.2 c member)
    · exact .inr (.inl isMark)
    · exact .inl (places.2 c member)
    · exact .inr (.inr rfl)

/-- Parts have digits, marks and their units. -/
theorem Parts.mem (h : Parts units cs) (member : c ∈ cs) : c.isDigit = true ∨ IsMark c ∨ c ∈ units := by
  induction h with
  | nil => cases member
  | cons part rest ih =>
    rcases List.mem_append.1 member with member | member
    · rcases part.mem member with digit | mark | rfl
      · exact .inl digit
      · exact .inr (.inl mark)
      · exact .inr (.inr List.mem_cons_self)
    · rcases ih member with digit | mark | listed
      · exact .inl digit
      · exact .inr (.inl mark)
      · exact .inr (.inr (List.mem_cons_of_mem _ listed))

/-- The parts of a date do not reach the mark of the time. -/
theorem Parts.notMem_time (h : Parts units cs) (order : units.Sublist dateUnits) : 'T' ∉ cs := by
  intro member
  rcases h.mem member with digit | mark | listed
  · exact absurd digit (by decide)
  · rcases mark with mark | mark <;> cases mark
  · exact absurd (order.subset listed) (by decide)

theorem splitAtFirst_append (absent : separator ∉ before) :
    splitAtFirst separator (before ++ separator :: after) = some (before, after) := by
  induction before with
  | nil => simp [splitAtFirst]
  | cons c before ih =>
    obtain ⟨differ, absent⟩ := not_or.1 (mt List.mem_cons.2 absent)
    simp [splitAtFirst, Ne.symm differ, ih absent]

theorem eq_append_of_splitAtFirst (split : splitAtFirst separator cs = some (before, after)) :
    cs = before ++ separator :: after := by
  induction cs generalizing before with
  | nil => cases split
  | cons c cs ih =>
    rw [splitAtFirst] at split
    split at split
    · next same =>
      cases split
      rw [same]
      rfl
    · obtain ⟨⟨front, behind⟩, inner, same⟩ := Option.map_eq_some_iff.1 split
      cases same
      rw [ih inner]
      rfl

theorem splitAtFirst_eq_none (absent : separator ∉ cs) : splitAtFirst separator cs = none := by
  cases split : splitAtFirst separator cs with
  | none => rfl
  | some halves =>
    rw [eq_append_of_splitAtFirst split] at absent
    exact absurd (List.mem_append_right _ List.mem_cons_self) absent

/-- **The scan of durations accepts the durations.** -/
theorem isDuration_iff : isDuration cs = true ↔ Duration cs := by
  have dates : ∀ u ∈ dateUnits, EndsNumber u := fun u member => endsNumber_of_mem (List.mem_append_left _ member)
  have times : ∀ u ∈ timeUnits, EndsNumber u := fun u member => endsNumber_of_mem (List.mem_append_right _ member)
  constructor
  · intro accepted
    unfold isDuration at accepted
    split at accepted
    · next rest =>
      split at accepted
      · next date time split =>
        rw [Bool.and_eq_true, isSome_countParts_iff dates, any_countParts_iff times] at accepted
        obtain ⟨⟨days, dayOrder, dayParts⟩, units, order, some, parts⟩ := accepted
        rw [eq_append_of_splitAtFirst split]
        exact .time dayOrder dayParts order some parts
      · obtain ⟨units, order, some, parts⟩ := (any_countParts_iff dates).1 accepted
        exact .date order some parts
    · cases accepted
  · intro duration
    cases duration with
    | date order some parts =>
      rw [isDuration, splitAtFirst_eq_none (parts.notMem_time order)]
      exact (any_countParts_iff dates).2 ⟨_, order, some, parts⟩
    | time dayOrder dayParts order some parts =>
      rw [List.cons_append, isDuration, splitAtFirst_append (dayParts.notMem_time dayOrder)]
      exact Bool.and_eq_true_iff.2
        ⟨(isSome_countParts_iff dates).2 ⟨_, dayOrder, dayParts⟩, (any_countParts_iff times).2 ⟨_, order, some, parts⟩⟩

/-- What does not repeat is a duration or digits. -/
theorem isDelay_of_head (once : cs.head? ≠ some 'R') :
    isDelay cs = (isDuration cs || (!cs.isEmpty && cs.all Char.isDigit)) := by
  unfold isDelay
  split
  · exact absurd rfl once
  · rfl

/-- **The scan of delays accepts the delays.** -/
theorem isDelay_iff : isDelay cs = true ↔ Literal cs := by
  constructor
  · intro accepted
    unfold isDelay at accepted
    split at accepted
    · split at accepted
      · next count duration split =>
        rw [Bool.and_eq_true, List.all_eq_true, isDuration_iff] at accepted
        rw [eq_append_of_splitAtFirst split]
        exact .repeating accepted.1 accepted.2
      · cases accepted
    · rw [Bool.or_eq_true, Bool.and_eq_true, isDuration_iff, List.all_eq_true] at accepted
      rcases accepted with duration | ⟨some, digits⟩
      · exact .duration duration
      · exact .milliseconds ⟨by simpa using some, digits⟩
  · intro literal
    cases literal with
    | milliseconds digits =>
      have once : cs.head? ≠ some 'R' := fun same =>
        absurd (digits.2 'R' (List.mem_of_head? same)) (by decide)
      rw [isDelay_of_head once, Bool.or_eq_true, Bool.and_eq_true, List.all_eq_true]
      exact .inr ⟨by simpa using digits.1, digits.2⟩
    | duration duration =>
      have once : cs.head? ≠ some 'R' := by cases duration <;> simp
      rw [isDelay_of_head once, isDuration_iff.2 duration, Bool.true_or]
    | @repeating count cs digits duration =>
      have absent : '/' ∉ count := fun member => absurd (digits _ member) (by decide)
      rw [List.cons_append, isDelay, splitAtFirst_append absent]
      exact Bool.and_eq_true_iff.2 ⟨List.all_eq_true.2 digits, isDuration_iff.2 duration⟩

theorem isLiteral_iff {text : String} : isLiteral text = true ↔ Literal text.toList := isDelay_iff

-- days take no fraction, and no unit comes twice
example : ¬ Literal "P1.5D".toList ∧ ¬ Literal "PT1M2M".toList := by
  rw [← isLiteral_iff, ← isLiteral_iff]
  decide

end Delays

end Delay

/-! ## Timers -/

section Timers

variable {site : Site} {node : NodeHeader} {a : TimerAttributes} {text : String}

/-- What is wrong with a timer whose delay is not computed is that the delay is none. -/
theorem BuiltinType.problem?_draftTimer (told : BuiltinType.timer.readAttributes node.attributes = .ok a)
    (trimmed : Text.trim a.delay = text) (filled : Text.isBlankText text = false)
    (given : Expression.isEmbedded text = false) :
    (draftTimer site node).problem? =
      if Delay.isLiteral text then none
      else some (.malformedAttribute ("delay '" ++ text ++ "' is neither a duration nor an expression")) := by
  have read : Draft.attributes .timer node = pure a := by rw [Draft.attributes, told]; rfl
  have required : Draft.requireText "delay" text = pure () := by rw [Draft.requireText, filled]; rfl
  rw [draftTimer, read, pure_bind]
  simp only [trimmed, required, pure_bind, given, Bool.false_eq_true, if_false]
  cases Delay.isLiteral text <;> rfl

/-- **The scan of delays accepts the grammar.** So a timer whose delay is neither blank nor computed is accepted,
wherever it stands and whatever was generated before, exactly if the delay without the blanks around it is in the
grammar. -/
theorem accepted_iff_literal (text : String) :
    (Delay.isLiteral text = true ↔ Delay.Literal text.toList) ∧
      ∀ (v : Visit) (a : TimerAttributes) (plan : Plan) (handle : String) (s : Session),
        v.generator = BuiltinType.timer.generator →
          BuiltinType.timer.readAttributes v.node.header.attributes = .ok a → Text.trim a.delay = text →
            Text.isBlankText text = false → Expression.isEmbedded text = false →
              (v.verdict plan handle s = .ok () ↔ Delay.Literal text.toList) := by
  refine ⟨Delay.isLiteral_iff, ?_⟩
  intro v a plan handle s generator told trimmed filled given
  have drafted : v.generator.draft (plan.site handle v.scope) v.node =
      BuiltinType.draftTimer (plan.site handle v.scope) v.node.header := by rw [generator]; rfl
  rw [Visit.verdict_eq_ok_iff, Visit.rejection?, drafted, BuiltinType.problem?_draftTimer told trimmed filled given,
    ← Delay.isLiteral_iff]
  cases Delay.isLiteral text <;> simp

/-- A timer that waits for a day and some seconds. -/
def waitingVisit : Visit :=
  ⟨BuiltinType.timer.generator, ⟨0⟩, .plain ⟨"wait", "wait", "timer", none, .ofList [("delay", .string " P1DT12,5S ")]⟩⟩

theorem accepted_iff_literal_days :
    BuiltinType.timer.readAttributes waitingVisit.node.header.attributes = .ok ⟨" P1DT12,5S "⟩ ∧
      Text.trim " P1DT12,5S " = "P1DT12,5S" ∧ Text.isBlankText "P1DT12,5S" = false ∧
      Expression.isEmbedded "P1DT12,5S" = false ∧ Delay.Literal "P1DT12,5S".toList ∧
      waitingVisit.verdict ⟨.builtin, .default, .empty⟩ rootHandle ⟨.empty, .empty "orders"⟩ = .ok () := by
  obtain ⟨scanned, accepted⟩ := accepted_iff_literal "P1DT12,5S"
  have told : BuiltinType.timer.readAttributes waitingVisit.node.header.attributes = .ok ⟨" P1DT12,5S "⟩ := by rfl
  have trimmed : Text.trim " P1DT12,5S " = "P1DT12,5S" := by rfl
  have filled : Text.isBlankText "P1DT12,5S" = false := by rfl
  have given : Expression.isEmbedded "P1DT12,5S" = false := by rfl
  have literal := scanned.1 (by rfl)
  exact ⟨told, trimmed, filled, given, literal, (accepted _ _ _ _ _ rfl told trimmed filled given).2 literal⟩

end Timers

end ProcessCompiler
