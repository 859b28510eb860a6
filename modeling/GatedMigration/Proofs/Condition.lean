import GatedMigration.Selector

/-!
# What conditions mean

What a condition says of the field at a dotted path, without evaluating it. The field is found by
descending along the names of the path (`Document.HasAt`), and it passes all the operators of the
condition, or equals the value that the condition is, whole or by one item of a list
(`Condition.Holds`). Evaluation gives that answer, unless it gets to an operator that is not known
or whose argument does not make sense (`Condition.fieldMeets_answers`). Such statements are put
together from parts (`Answers`): of parts that are evaluated in turn, one that is not reached cannot
make evaluation fail.
-/

namespace GatedMigration

/-! ## Answers -/

/-- An evaluation fails just if it stumbles over something; otherwise it gives an answer, which is
whether a statement holds. -/
def Answers {ε : Type} (answer : Except ε Bool) (holds stumbles : Prop) : Prop :=
  match answer with
  | .ok b => ¬stumbles ∧ (b = true ↔ holds)
  | .error _ => stumbles

/-- One evaluation and then, if it answers yes, another one. -/
def conjoin {ε : Type} (first rest : Except ε Bool) : Except ε Bool :=
  match first with
  | .ok true => rest
  | .ok false => .ok false
  | .error e => .error e

/-- One evaluation and then, if it answers no, another one. -/
def disjoin {ε : Type} (first rest : Except ε Bool) : Except ε Bool :=
  match first with
  | .ok true => .ok true
  | .ok false => rest
  | .error e => .error e

namespace Answers

variable {ε : Type} {answer first rest : Except ε Bool} {P P' Q S S' T : Prop} {b : Bool}

theorem ok (sound : ¬S) (right : b = true ↔ P) : Answers (.ok b : Except ε Bool) P S :=
  ⟨sound, right⟩

theorem congr (h : Answers answer P S) (holds : P' ↔ P) (stumbles : S' ↔ S) :
    Answers answer P' S' := by
  rw [propext holds, propext stumbles]
  exact h

theorem not (h : Answers answer P S) : Answers (answer.map (!·)) (¬P) S := by
  cases answer with
  | error e => exact h
  | ok b =>
    refine ⟨h.1, ?_⟩
    rw [← h.2]
    cases b <;> simp

/-- It makes no difference to a conjunction that evaluation stops at the first part that does not
hold, but nothing behind that is stumbled over. -/
theorem and (hp : Answers first P S) (hq : Answers rest Q T) :
    Answers (conjoin first rest) (P ∧ Q) (S ∨ P ∧ T) := by
  match first with
  | .error _ => exact Or.inl hp
  | .ok false => exact ok (by simp [← hp.2, hp.1]) (by simp [← hp.2])
  | .ok true => exact hq.congr (by simp [← hp.2]) (by simp [← hp.2, hp.1])

/-- It makes no difference to a disjunction that evaluation stops at the first part that holds, but
nothing behind that is stumbled over. -/
theorem or (hp : Answers first P S) (hq : Answers rest Q T) :
    Answers (disjoin first rest) (P ∨ Q) (S ∨ ¬P ∧ T) := by
  match first with
  | .error _ => exact Or.inl hp
  | .ok true => exact ok (by simp [← hp.2, hp.1]) (by simp [← hp.2])
  | .ok false => exact hq.congr (by simp [← hp.2]) (by simp [← hp.2, hp.1])

theorem error_iff (h : Answers answer P S) : (∃ e, answer = .error e) ↔ S := by
  cases answer with
  | ok b => exact ⟨fun ⟨_, failed⟩ => (by cases failed), fun stumbles => absurd stumbles h.1⟩
  | error e => exact ⟨fun _ => h, fun _ => ⟨e, rfl⟩⟩

theorem exists_ok (h : Answers answer P S) (sound : ¬S) :
    ∃ b, answer = .ok b ∧ (b = true ↔ P) := by
  cases answer with
  | ok b => exact ⟨b, rfl, h.2⟩
  | error e => exact absurd h sound

end Answers

/-- Something bad stands in a list, and the way to it leads past everything before it. -/
inductive Reached {α : Type} (past bad : α → Prop) : List α → Prop
  | here {a : α} {l : List α} : bad a → Reached past bad (a :: l)
  | later {a : α} {l : List α} : past a → Reached past bad l → Reached past bad (a :: l)

namespace Reached

variable {α : Type} {past bad : α → Prop} {a : α} {l : List α}

theorem nil_iff : Reached past bad [] ↔ False := by
  constructor
  · rintro ⟨⟩
  · exact False.elim

theorem cons_iff : Reached past bad (a :: l) ↔ bad a ∨ past a ∧ Reached past bad l := by
  constructor
  · rintro (h | ⟨ahead, h⟩)
    · exact Or.inl h
    · exact Or.inr ⟨ahead, h⟩
  · rintro (h | ⟨ahead, h⟩)
    · exact .here h
    · exact .later ahead h

theorem exists_bad (h : Reached past bad l) : ∃ a ∈ l, bad a := by
  induction h with
  | here h => exact ⟨_, List.mem_cons_self, h⟩
  | later _ _ ih =>
    obtain ⟨a, mem, h⟩ := ih
    exact ⟨a, List.mem_cons_of_mem _ mem, h⟩

end Reached

/-! ## Fields -/

/-- A value is reached from another one by descending through maps along names. -/
inductive Value.Reaches : Value → List String → Value → Prop
  | here (v : Value) : Reaches v [] v
  | under {fields : List (String × Value)} {name : String} {names : List String} {v w : Value} :
    Keyed.find? name fields = some v → Reaches v names w → Reaches (.map fields) (name :: names) w

theorem Value.descend_eq_some_iff {names : List String} {v w : Value} :
    Value.descend names v = some w ↔ v.Reaches names w := by
  induction names generalizing v with
  | nil =>
    constructor
    · intro h
      obtain rfl := Option.some.inj h
      exact .here _
    · rintro ⟨⟩
      rfl
  | cons name names ih =>
    cases v with
    | map fields =>
      rw [descend, Option.bind_eq_some_iff]
      constructor
      · rintro ⟨inner, found, h⟩
        exact .under found (ih.1 h)
      · rintro (_ | ⟨found, h⟩)
        exact ⟨_, found, ih.2 h⟩
    | _ =>
      constructor
      · rintro ⟨⟩
      · rintro ⟨⟩

namespace Document

variable {d : Document} {path : String} {v : Value} {field : Option Value}

/-- A document has a value at a path: it is reached along the names, none with a dot in it, that the
path puts together with dots. -/
def HasAt (d : Document) (path : String) (v : Value) : Prop :=
  ∃ names : List (List Char), names ≠ [] ∧ (∀ name ∈ names, '.' ∉ name) ∧
    path.toList = List.intercalate ['.'] names ∧ (Value.map d).Reaches (names.map String.ofList) v

/-- What a document has at a path, none if there is nothing. -/
def FieldAt (d : Document) (path : String) (field : Option Value) : Prop :=
  ∀ v, field = some v ↔ d.HasAt path v

theorem lookup_eq_some_iff : d.lookup path = some v ↔ d.HasAt path v := by
  rw [lookup, Value.descend_eq_some_iff, pathParts]
  constructor
  · intro reached
    obtain ⟨first, rest, h⟩ := exists_pieces_eq_cons (· == '.') path.toList
    refine ⟨_, by rw [h]; exact List.cons_ne_nil _ _, fun name mem dot => ?_,
      (intercalate_pieces '.' path.toList).symm, reached⟩
    exact Bool.noConfusion ((not_separates_of_mem_pieces mem dot).symm.trans (beq_self_eq_true '.'))
  · rintro ⟨names, some_name, plain, joined, reached⟩
    rw [joined, pieces_intercalate some_name plain]
    exact reached

/-- Look-up finds what is there. -/
theorem fieldAt_iff : d.FieldAt path field ↔ d.lookup path = field := by
  constructor
  · intro at_path
    cases field with
    | some v => exact lookup_eq_some_iff.2 ((at_path v).1 rfl)
    | none =>
      rw [Option.eq_none_iff_forall_ne_some]
      intro v found
      cases (at_path v).2 (lookup_eq_some_iff.1 found)
  · rintro rfl v
    exact lookup_eq_some_iff

end Document

/-! ## Values -/

/-- Two whole values are the same. An integer and a double are compared as numbers, the integer as
the double nearest to it; other values are the same if they are equal and of one kind. -/
inductive Value.Same : Value → Value → Prop
  | int_number {n : Int64} {x : Binary64} : (asDouble n).compare? x = some .eq →
    Same (.int n) (.number x)
  | number_int {x : Binary64} {n : Int64} : x.compare? (asDouble n) = some .eq →
    Same (.number x) (.int n)
  | of_kind {v w : Value} : (v == w) = true → Same v w

theorem Value.sameAs_iff {v w : Value} : v.sameAs w = true ↔ v.Same w := by
  constructor
  · intro h
    unfold sameAs at h
    split at h
    · exact .int_number (eq_of_beq h)
    · exact .number_int (eq_of_beq h)
    · exact .of_kind h
  · intro h
    cases h with
    | int_number h => exact beq_iff_eq.2 h
    | number_int h => exact beq_iff_eq.2 h
    | of_kind h =>
      unfold sameAs
      split
      · cases h
      · cases h
      · exact h

/-! ## Conditions -/

/-- A value of which something is true stands in a field: as its whole value, or as one item of the
list that it is. -/
inductive FieldHas (p : Value → Prop) : Option Value → Prop
  | whole {v : Value} : p v → FieldHas p (some v)
  | item {items : List Value} {v : Value} : v ∈ items → p v → FieldHas p (some (.array items))

namespace FieldHas

variable {p : Value → Prop} {items : List Value} {v : Value}

theorem none_iff : FieldHas p none ↔ False := by
  constructor
  · rintro ⟨⟩
  · exact False.elim

theorem array_iff : FieldHas p (some (.array items)) ↔ p (.array items) ∨ ∃ v ∈ items, p v := by
  constructor
  · rintro (h | ⟨mem, h⟩)
    · exact Or.inl h
    · exact Or.inr ⟨_, mem, h⟩
  · rintro (h | ⟨v, mem, h⟩)
    · exact .whole h
    · exact .item mem h

theorem scalar_iff (scalar : ∀ items, v ≠ .array items) : FieldHas p (some v) ↔ p v := by
  constructor
  · rintro (h | ⟨mem, h⟩)
    · exact h
    · exact absurd rfl (scalar _)
  · exact .whole

end FieldHas

/-- A field equals a value; where there is nothing it equals null. -/
def FieldEquals (field : Option Value) (v : Value) : Prop :=
  field = none ∧ v = .null ∨ FieldHas (·.Same v) field

theorem fieldEquals_iff {field : Option Value} {v : Value} :
    fieldEquals field v = true ↔ FieldEquals field v := by
  unfold fieldEquals FieldEquals
  cases field with
  | none => cases v <;> simp [FieldHas.none_iff]
  | some w =>
    cases w with
    | array items => simp [FieldHas.array_iff, Value.sameAs_iff]
    | _ => simp [FieldHas.scalar_iff, Value.sameAs_iff]

/-- A field stands to a value in one of some orders. -/
def FieldOrdered (among : Ordering → Prop) (field : Option Value) (v : Value) : Prop :=
  FieldHas (fun w => ∃ order, w.compare? v = some order ∧ among order) field

theorem fieldOrdered_iff {passes : Ordering → Bool} {among : Ordering → Prop}
    (same : ∀ order, passes order = true ↔ among order) {field : Option Value} {v : Value} :
    fieldOrdered field v passes = true ↔ FieldOrdered among field v := by
  unfold fieldOrdered FieldOrdered
  cases field with
  | none => simp [FieldHas.none_iff]
  | some w =>
    cases w with
    | array items => simp [FieldHas.array_iff, Value.compare?, Option.any_eq_true, same]
    | _ => simp [FieldHas.scalar_iff, Option.any_eq_true, same]

/-- A field contains a string with a match of a pattern in it. -/
def FieldContains (r : Pattern) (field : Option Value) : Prop :=
  FieldHas (fun w => ∃ text, w = .string text ∧ r.occursIn text = true) field

theorem Value.string?_eq_some_iff {v : Value} {text : String} :
    v.string? = some text ↔ v = .string text := by
  cases v <;> simp [string?]

theorem fieldMatches_iff {field : Option Value} {r : Pattern} :
    fieldMatches field r = true ↔ FieldContains r field := by
  unfold fieldMatches FieldContains
  cases field with
  | none => simp [FieldHas.none_iff]
  | some w =>
    cases w with
    | array items => simp [FieldHas.array_iff, Option.any_eq_true, Value.string?_eq_some_iff]
    | _ => simp [FieldHas.scalar_iff]

namespace Operator

variable {op : Operator} {field : Option Value} {arg : Value}

/-- The argument of an operator makes sense: a list for the operators of membership, a string that
denotes a pattern for the one of patterns, anything for the others. -/
def Fits : Operator → Value → Prop
  | isIn, arg | notIn, arg => ∃ candidates, arg = .array candidates
  | pattern, arg => ∃ text r, arg = .string text ∧ Pattern.read? text = some r
  | _, _ => True

/-- A field equals one of a list of values. -/
def OneOf (field : Option Value) (arg : Value) : Prop :=
  ∃ candidates, arg = .array candidates ∧ ∃ v ∈ candidates, FieldEquals field v

/-- What an operator says of a field. -/
def Holds (op : Operator) (field : Option Value) (arg : Value) : Prop :=
  match op with
  | equal => FieldEquals field arg
  | notEqual => ¬FieldEquals field arg
  | greater => FieldOrdered (· = .gt) field arg
  | greaterOrEqual => FieldOrdered (· ≠ .lt) field arg
  | less => FieldOrdered (· = .lt) field arg
  | lessOrEqual => FieldOrdered (· ≠ .gt) field arg
  | isIn => OneOf field arg
  | notIn => ¬OneOf field arg
  | present => (∃ v, field = some v) ↔ arg.truthy = true
  | pattern => ∃ text r, arg = .string text ∧ Pattern.read? text = some r ∧ FieldContains r field

theorem oneOf_answers (name : String) :
    Answers (oneOf name field arg) (OneOf field arg) ¬∃ candidates, arg = .array candidates := by
  cases arg with
  | array candidates => exact .ok (by simp) (by simp [OneOf, fieldEquals_iff])
  | _ => exact fun ⟨_, h⟩ => by cases h

theorem matchesPattern_answers :
    Answers (matchesPattern field arg) (pattern.Holds field arg) ¬pattern.Fits arg := by
  unfold matchesPattern
  cases string : arg.string? with
  | none => exact fun ⟨_, _, h, _⟩ => by rw [h] at string; cases string
  | some text =>
    obtain rfl := Value.string?_eq_some_iff.1 string
    dsimp only
    cases read : Pattern.read? text with
    | none => exact fun ⟨_, _, h, h'⟩ => by cases h; rw [read] at h'; cases h'
    | some r => exact .ok (by simp [Fits, read]) (by simp [Holds, read, fieldMatches_iff])

/-- An operator fails just if its argument does not make sense. -/
theorem apply_answers (op : Operator) (field : Option Value) (arg : Value) :
    Answers (op.apply field arg) (op.Holds field arg) ¬op.Fits arg := by
  cases op with
  | equal => exact .ok (by simp [Fits]) fieldEquals_iff
  | notEqual => exact .ok (by simp [Fits]) (by simp [Holds, ← fieldEquals_iff])
  | greater => exact .ok (by simp [Fits]) (fieldOrdered_iff (by simp))
  | greaterOrEqual => exact .ok (by simp [Fits]) (fieldOrdered_iff (by simp))
  | less => exact .ok (by simp [Fits]) (fieldOrdered_iff (by simp))
  | lessOrEqual => exact .ok (by simp [Fits]) (fieldOrdered_iff (by simp))
  | isIn => exact oneOf_answers "$in"
  | notIn => exact (oneOf_answers "$nin").not
  | present => exact .ok (by simp [Fits]) (by cases field <;> simp [Holds])
  | pattern => exact matchesPattern_answers

end Operator

/-- The operators that a value is as a condition, none if it is a value to be equal to. -/
def Value.operators? : Value → Option (List (String × Value))
  | .map fields => if isOperatorMap fields then some fields else none
  | _ => none

theorem fieldMeets_eq (field : Option Value) (condition : Value) :
    fieldMeets field condition = match condition.operators? with
      | some operators => applyOperators field operators
      | none => .ok (fieldEquals field condition) := by
  cases condition with
  | map fields =>
    unfold fieldMeets Value.operators?
    dsimp only
    split <;> rfl
  | _ => rfl

namespace Condition

variable {field : Option Value} {condition : Value} {operators : List (String × Value)}

/-- An operator of a condition is known, and its argument makes sense. -/
def OperatorFits (operator : String × Value) : Prop :=
  ∃ op, Operator.named? operator.1 = some op ∧ op.Fits operator.2

/-- What an operator of a condition says of a field. -/
def OperatorHolds (field : Option Value) (operator : String × Value) : Prop :=
  ∃ op, Operator.named? operator.1 = some op ∧ op.Holds field operator.2

/-- Each operator of a condition makes sense. -/
def Fits (condition : Value) : Prop :=
  ∀ operators, condition.operators? = some operators → ∀ p ∈ operators, OperatorFits p

/-- What a condition says of a field: that it passes all the operators, or that it equals the
value. -/
def Holds (field : Option Value) (condition : Value) : Prop :=
  match condition.operators? with
  | some operators => ∀ p ∈ operators, OperatorHolds field p
  | none => FieldEquals field condition

theorem fits_of_operators (known : condition.operators? = some operators)
    (each : ∀ p ∈ operators, OperatorFits p) : Fits condition := by
  rintro _ h
  obtain rfl := Option.some.inj (known.symm.trans h)
  exact each

theorem fits_of_value (value : condition.operators? = none) : Fits condition := by
  rintro _ h
  cases value.symm.trans h

/-- Evaluation of a condition gets to an operator that does not make sense: the field passes the
operators before it. -/
def Stumbles (field : Option Value) (condition : Value) : Prop :=
  ∃ operators, condition.operators? = some operators ∧
    Reached (OperatorHolds field) (¬OperatorFits ·) operators

theorem applyOperators_cons {name : String} {op : Operator} (known : Operator.named? name = some op)
    (arg : Value) : applyOperators field ((name, arg) :: operators) =
      conjoin (op.apply field arg) (applyOperators field operators) := by
  rw [applyOperators, known]
  unfold conjoin
  dsimp only
  split <;> simp_all

theorem applyOperators_answers (field : Option Value) (operators : List (String × Value)) :
    Answers (applyOperators field operators) (∀ p ∈ operators, OperatorHolds field p)
      (Reached (OperatorHolds field) (¬OperatorFits ·) operators) := by
  induction operators with
  | nil => exact .ok (by simp [Reached.nil_iff]) (by simp)
  | cons p rest ih =>
    rw [List.forall_mem_cons, Reached.cons_iff]
    cases known : Operator.named? p.1 with
    | none =>
      rw [applyOperators, known]
      exact Or.inl fun ⟨_, named, _⟩ => by rw [known] at named; cases named
    | some op =>
      rw [applyOperators_cons known]
      refine ((op.apply_answers field p.2).and ih).congr ?_ ?_
      · simp [OperatorHolds, known]
      · simp [OperatorHolds, OperatorFits, known]

theorem fieldMeets_answers (field : Option Value) (condition : Value) :
    Answers (fieldMeets field condition) (Holds field condition) (Stumbles field condition) := by
  rw [fieldMeets_eq]
  unfold Holds Stumbles
  cases h : condition.operators? with
  | some operators => exact (applyOperators_answers field operators).congr Iff.rfl (by simp)
  | none => exact .ok (by simp) fieldEquals_iff

theorem not_stumbles (fits : Fits condition) : ¬Stumbles field condition := by
  rintro ⟨operators, known, reached⟩
  obtain ⟨p, mem, bad⟩ := reached.exists_bad
  exact bad (fits operators known p mem)

end Condition

/-! ## Conditions on the identifying value -/

theorem Document.lookup_idField (d : Document) : d.lookup idField = Keyed.find? idField d := by
  have path : pathParts idField = [idField] := by decide
  rw [lookup, path, Value.descend]
  cases Keyed.find? idField d <;> rfl

/-- A selector of one operator on the identifying value. -/
theorem Selector.accepts_operator {name : String} {op : Operator}
    (known : Operator.named? name = some op) (operator : isOperatorName name = true) (arg : Value)
    (d : Document) :
    accepts ⟨[(idField, .map [(name, arg)])]⟩ d = op.apply (Keyed.find? idField d) arg := by
  have operators : Value.operators? (.map [(name, arg)]) = some [(name, arg)] := by
    simp [Value.operators?, isOperatorMap, operator]
  have entry : meetsEntry d idField (.map [(name, arg)]) =
      op.apply (Keyed.find? idField d) arg := by
    rw [meetsEntry, if_neg (by decide), if_neg (by decide), Document.lookup_idField, fieldMeets_eq,
      operators]
    · dsimp only
      rw [Condition.applyOperators_cons known, applyOperators]
      rcases op.apply (Keyed.find? idField d) arg with _ | _ | _ <;> rfl
    · exact fun _ e => by cases e
  rw [accepts, meetsEntries, entry, meetsEntries]
  rcases op.apply (Keyed.find? idField d) arg with _ | _ | _ <;> rfl

end GatedMigration
