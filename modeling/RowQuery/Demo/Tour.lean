import RowQuery.Demo
import RowQuery.Plan

/-! # A tour of the demonstration queries

Each query is compiled for a result type, shown, and run over the employees; its elements are
listed one on a line.
-/

namespace RowQuery.Demo

/-- The part of the tour that compiles and runs one query. -/
def stop (type : ResultType) (sample : Sample) (line : type.Element Person → String) :
    Except QueryError String := do
  let plan ← Plan.compile scope {} sample.query
  let typed ← plan.typed type
  let listed ← match (typed.execute people).run.value with
    | .ok (.ok elements) => pure (elements.toList.map fun element => " -> " ++ line element ++ "\n")
    | .ok (.error cause) => throw cause
    | .error fault => pure [fault.message ++ "\n"]
  return "Compiled query for `" ++ sample.query ++ "`:\n" ++ plan.describe ++ "\n" ++
    String.join listed ++ "\n"

/-- The result type of single texts. -/
def textType : ResultType := .field .text

/-- The result type of an employee's name, city, department, team and level. -/
def summaryType : ResultType :=
  .tuple (.last [.text, .text, .text, .nullableText, .text])
    ⟨List.cons_ne_nil _ _, by decide⟩

/-- An employee's place of work. -/
def placeText (person : Person) : String :=
  person.name ++ " (" ++ person.city ++ ") [" ++ person.department ++ "]"

/-- The whole tour. -/
def tour : Except QueryError String := do
  let rows := String.join (people.map fun person => person.describe ++ "\n")
  let stops ← [
    stop textType cityFilter id,
    stop .row seniorManagers fun person =>
      placeText person ++ ", Years=" ++ Text.intText person.yearsAtCompany.toInt ++ ", Level=" ++
        person.level,
    stop textType seniorTeams id,
    stop textType abroad id,
    stop summaryType summaries fun (name, city, department, team, level, _) =>
      name ++ " (" ++ city ++ ") - " ++ department ++ "/" ++ team.getD "Unset" ++ " [" ++ level ++
        "]",
    stop textType doubleNegation id,
    stop textType negatedTeams id,
    stop .row repetition placeText].mapM id
  return "Input data:\n" ++ rows ++ "\n" ++ String.join stops ++ "All queries executed.\n"

end RowQuery.Demo
