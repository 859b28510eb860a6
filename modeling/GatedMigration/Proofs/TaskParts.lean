import GatedMigration.Proofs.Acceptance
import GatedMigration.Proofs.Identifiers

/-!
# The parts of a task's identifier

The identifier of a task is cut at its first and at its last dot (`taskParts?`). The text of the
document may have dots of its own, even look like the identifier of another task, but the number has
none, and neither has the identifier of the migration if a plan with it is accepted. So the
identifier tells the three parts that it was made of.

* `childId_parts`: tasks with one identifier have the same parts, and no migration has it.
-/

namespace GatedMigration

/-- What stands before the first dot of an identifier, between the first and the last one, and
behind the last one; none if it has fewer than two. -/
def taskParts? (id : Identifier) : Option (Identifier × String × String) :=
  match pieces (· == '.') id.toList with
  | [] => none
  | first :: behind =>
    match behind.getLast? with
    | none => none
    | some last =>
      if behind.dropLast = [] then none
      else some (String.ofList first, String.ofList (List.intercalate ['.'] behind.dropLast),
        String.ofList last)

theorem taskParts?_childId {a : Identifier} (plain : Plain a) (d : Value) (n : Nat) :
    taskParts? (childId a d n) = some (a, d.display, toString n) := by
  obtain ⟨first, rest, parts⟩ := exists_pieces_eq_cons (· == '.') d.display.toList
  have some_part : pieces (· == '.') d.display.toList ≠ [] := parts ▸ List.cons_ne_nil _ _
  have text := intercalate_pieces '.' d.display.toList
  have number : String.ofList (Nat.toDigits 10 n) = toString n := rfl
  rw [taskParts?, pieces_childId, pieces_of_not_mem plain, List.singleton_append]
  dsimp only
  rw [List.getLast?_concat]
  dsimp only
  rw [List.dropLast_concat, if_neg some_part, text, number, String.ofList_toList,
    String.ofList_toList]

/-- No migration of an accepted plan has the identifier of a task. -/
theorem Plan.Accepted.childId_notMem {p : Plan} (accepted : p.Accepted) (a : Identifier) (d : Value)
    (n : Nat) : childId a d n ∉ p.ids := by
  intro mem
  obtain ⟨m, given, same⟩ := List.mem_map.1 mem
  exact (accepted.complete.plain m given).ne_childId a d n same

/-- If the identifier of a migration has no dot, as in an accepted plan, that of a task tells the
migration, the text of the document and the number. Each has a dot, so that it is never the
identifier of a migration of an accepted plan. -/
theorem childId_parts (a b : Identifier) (d e : Value) (n k : Nat) :
    (Plain a → taskParts? (childId a d n) = some (a, d.display, toString n)) ∧
    (Plain a → Plain b →
      (childId a d n = childId b e k ↔ a = b ∧ d.display = e.display ∧ n = k)) ∧
    '.' ∈ (childId a d n).toList ∧ ∀ p : Plan, p.Accepted → childId a d n ∉ p.ids := by
  refine ⟨fun plain => taskParts?_childId plain d n, fun ha hb => ⟨fun same => ?_, ?_⟩, ?_,
    fun p accepted => accepted.childId_notMem a d n⟩
  · have parts := congrArg taskParts? same
    rw [taskParts?_childId ha, taskParts?_childId hb, Option.some.injEq, Prod.mk.injEq,
      Prod.mk.injEq] at parts
    exact ⟨parts.1, parts.2.1, childId_ordinal_inj same⟩
  · rintro ⟨rfl, text, rfl⟩
    rw [childId, text, childId]
  · obtain ⟨rest, text⟩ := under_childId a d n
    rw [text]
    exact List.mem_append_cons_self

/-- A document whose text goes on like the identifier of another task: the first and the last dot
count. -/
theorem second_order_told_from_bill :
    Plain "orders" ∧ Plain "bills" ∧ Plan.invoicesPlan.Accepted ∧
    taskParts? "orders.1.0.bills.2.10" = some ("orders", "1.0.bills.2", "10") ∧
    childId "orders" (.string "1.0.bills.2") 10 ≠ childId "bills" (.int 2) 10 ∧
    childId "orders" (.string "1.0.bills.2") 10 ∉ Plan.invoicesPlan.ids := by
  have orders : Plain "orders" := by decide
  have bills : Plain "bills" := by decide
  obtain ⟨parts, same, -, named⟩ :=
    childId_parts "orders" "bills" (.string "1.0.bills.2") (.int 2) 10 10
  have id : childId "orders" (.string "1.0.bills.2") 10 = "orders.1.0.bills.2.10" := by decide
  have cut := parts orders
  rw [id] at cut
  exact ⟨orders, bills, Plan.check_invoicesPlan, cut,
    fun h => absurd ((same orders bills).1 h).1 (by decide), named _ Plan.check_invoicesPlan⟩

end GatedMigration
