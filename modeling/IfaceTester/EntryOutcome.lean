import IfaceTester.Grammar
import IfaceTester.Program

/-!
# What the handler of an entry reports

`interface_handle_config` starts with a status that says that its argument is
invalid, and overwrites it with what the parser of the fields returns. None of its
later exits sets it again, so the status is that of the parser
(`res_interfaceHandleConfig`), whether the entry is accepted or not.

A rejected entry leaves the tracked interfaces alone in any case.
-/

set_option autoImplicit false

namespace IfaceTester

/-- The handler says by its status whether it handed an interface to `vlist_add`,
and a rejected entry changes no interface. -/
structure ReportsOutcome (program : Program) (msg : BlobAttr) (answer : Answer) : Prop where
  status : (interfaceHandleConfig program.ctx msg).res = ubusStatusOk ↔
    (interfaceHandleConfig program.ctx msg).added.isSome = true
  unchanged : (interfaceHandleConfig program.ctx msg).added = none →
    (handleEntry program msg answer).interfaces = program.interfaces

/-- The parser goes through the fields of the entry to the end. -/
def Parsable (msg : BlobAttr) : Prop := msg.data ≠ [] ∧ ∀ attr ∈ msg.data, attr.type.isSome = true

section Entry

variable {ctx : InterfaceTesterShared} {msg : BlobAttr}

/-- **The status of the handler is the status of the parser.** -/
theorem res_interfaceHandleConfig (ctx : InterfaceTesterShared) (msg : BlobAttr) :
    (interfaceHandleConfig ctx msg).res = (blobmsgParse interfaceConfigPolicy msg.data).1 := by
  unfold interfaceHandleConfig
  dsimp only
  split
  case isTrue unparsed => rfl
  case isFalse parsed =>
    have ok : (blobmsgParse interfaceConfigPolicy msg.data).1 = ubusStatusOk := not_not.mp parsed
    split
    case isTrue missing => rfl
    case isFalse present =>
      split
      case h_1 noTests => rfl
      case h_2 tests testsAdded =>
        split
        case h_1 noRecoverys => rfl
        case h_2 recoverys recoverysAdded =>
          split
          case isTrue valid => exact ok.symm
          case isFalse invalid => rfl

theorem res_eq_ok_iff : (interfaceHandleConfig ctx msg).res = ubusStatusOk ↔ Parsable msg := by
  rw [res_interfaceHandleConfig]
  exact blobmsgParse_status_iff

/-- An entry that the handler accepts is in the grammar, and the other way around. -/
theorem added_iff_inGrammar : (interfaceHandleConfig ctx msg).added.isSome = true ↔
    InGrammar ctx.withMetricsAdjustment msg := by
  refine ⟨fun accepted => ?_, added_of_inGrammar⟩
  obtain ⟨iface, handled⟩ := Option.isSome_iff_exists.mp accepted
  exact inGrammar_of_added handled

/-- An entry in the grammar has fields, and all of them are well formed. -/
theorem InGrammar.parsable {withMetricsAdjustment : Bool}
    (grammar : InGrammar withMetricsAdjustment msg) : Parsable msg := by
  refine ⟨fun empty => ?_, grammar.wellFormed⟩
  obtain ⟨attr, before, after, split, -⟩ :=
    grammar.present .tests (mem_interfaceConfigFields (by simp))
  rw [empty] at split
  simp at split

/-- **A rejected entry leaves every tracked interface as it was.** -/
theorem interfaces_of_rejected {program : Program} {answer : Answer}
    (rejected : (interfaceHandleConfig program.ctx msg).added = none) :
    (handleEntry program msg answer).interfaces = program.interfaces := by
  unfold handleEntry
  dsimp only
  rw [rejected]
  cases (interfaceHandleConfig program.ctx msg).freed with
  | none => rfl
  | some iface => rfl

/-- **When the status is right.** The handler reports its outcome exactly for the
entries that the parser refuses and for those in the grammar. A rejected entry
changes nothing either way. -/
theorem reports_outcome_iff (program : Program) (msg : BlobAttr) (answer : Answer) :
    (ReportsOutcome program msg answer ↔
      ¬ Parsable msg ∨ InGrammar program.ctx.withMetricsAdjustment msg) ∧
    ((interfaceHandleConfig program.ctx msg).added = none →
      (handleEntry program msg answer).interfaces = program.interfaces) := by
  refine ⟨⟨fun reports => ?_, fun fits => ⟨?_, interfaces_of_rejected⟩⟩, interfaces_of_rejected⟩
  · have status := reports.status
    rw [res_eq_ok_iff, added_iff_inGrammar] at status
    by_cases parsable : Parsable msg
    · exact .inr (status.mp parsable)
    · exact .inl parsable
  · rw [res_eq_ok_iff, added_iff_inGrammar]
    rcases fits with unparsable | grammar
    · exact iff_of_false unparsable fun grammar => unparsable grammar.parsable
    · exact iff_of_true grammar.parsable grammar

end Entry

/-- An entry with one field only. -/
def unfinishedEntry : BlobAttr := .table "wan" [.string sSuccessCondition "all_tests_must_pass"]

/-- The entry is rejected, and the handler says that it was not. -/
theorem not_reports_outcome : ¬ ∀ program msg answer, ReportsOutcome program msg answer := by
  intro reports
  have accepted := (reports (configInit connectedShared) unfinishedEntry
    ⟨false, .refused⟩).status.mp (by decide)
  exact absurd accepted (by decide)

end IfaceTester
