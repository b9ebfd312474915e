import EntitySelection.PredicateSet

/-!
# Reports

A report is a selection as data: the mode, the three lists of ids, and the results under their
ids. Reports are also checked from data.
-/

namespace EntitySelection

open Schema

namespace Outcome

def check : Check Outcome := Check.record "PredicateOutcome" fun es =>
  mk <$> Check.required es "predicate" Check.text
    <*> Check.required es "description" Check.text
    <*> Check.required es "applicable" Check.flag
    <*> Check.required es "passed" Check.flag

def toValue (o : Outcome) : Value := .map [
  (.text "predicate", .text o.predicate),
  (.text "description", .text o.description),
  (.text "applicable", .flag o.applicable),
  (.text "passed", .flag o.passed)]

end Outcome

namespace EntityResult

def check : Check EntityResult := Check.record "EntityResult" fun es =>
  mk <$> Check.required es "entity_id" Check.text
    <*> Check.required es "selected" Check.flag
    <*> Check.required es "outcomes" (Check.list Outcome.check)

def toValue (e : EntityResult) : Value := .map [
  (.text "entity_id", .text e.entityId),
  (.text "selected", .flag e.selected),
  (.text "outcomes", .list (e.outcomes.map (·.toValue)))]

end EntityResult

/-- A selection as data. -/
abbrev Report := Selection

namespace Report

/-- The report of a selection. -/
def ofSelection (s : Selection) : Report := s

def check : Check Report := Check.record "SelectionResult" fun es =>
  Selection.mk <$> Check.required es "match" MatchMode.check
    <*> Check.optional es "selected_ids" [] (Check.list Check.text)
    <*> Check.optional es "rejected_ids" [] (Check.list Check.text)
    <*> Check.optional es "not_applicable_ids" [] (Check.list Check.text)
    <*> Check.optional es "results" [] (Check.textMap EntityResult.check)

def texts (ss : List String) : Value := .list (ss.map .text)

def toValue (r : Report) : Value := .map [
  (.text "match", .text r.mode.name),
  (.text "selected_ids", texts r.selectedIds),
  (.text "rejected_ids", texts r.rejectedIds),
  (.text "not_applicable_ids", texts r.notApplicableIds),
  (.text "results", .map (r.results.map fun p => (.text p.1, p.2.toValue)))]

end Report

end EntitySelection
