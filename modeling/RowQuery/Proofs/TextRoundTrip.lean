import RowQuery.Proofs.ConditionText
import RowQuery.Proofs.QueryMeaning

/-! # Round trips of conditions

A condition that is read from a query is well formed (`Grammar.wellFormed_of_parse`). Together with
the reading of well-formed conditions from their own texts, this makes writing and reading a
condition the identity on exactly the conditions that a query can have
(`Condition.text_round_trip`), floats that are not numbers being identified. The same holds when the
text is that of the predicate of the condition.
-/

namespace RowQuery

/-! ## Conditions of queries -/

/-- If two conditions compare columns that can be named, so does their junction. -/
theorem Condition.names_join {left right : Condition}
    (namedLeft : ∀ column ∈ left.columnNames, Names column)
    (namedRight : ∀ column ∈ right.columnNames, Names column) (junction : Grammar.Junction) :
    ∀ column ∈ (junction.join left right).columnNames, Names column := by
  have named := List.forall_mem_append.mpr ⟨namedLeft, namedRight⟩
  cases junction with
  | and => exact named
  | or => exact named

namespace Grammar

open Token

mutual

/-- A condition that is derived from tokens whose words are runs of word characters compares columns
that can be named. -/
theorem Derivation.names {level : Level} : ∀ derivation : Derivation level,
    (∀ token ∈ derivation.tokens, token.kind = .word → IsRun token.text) →
    ∀ column ∈ derivation.condition.columnNames, Condition.Names column
  | .comparison column operatorToken literalToken operator literal named free compares valued,
    runs => by
      have run := runs column List.mem_cons_self named
      have other : Text.sameIgnoringCase column.text Keyword.not.text = false := by
        simpa only [isKeyword, named, decide_true, Bool.true_and] using free
      rintro name (_ | ⟨_, ⟨⟩⟩)
      exact Condition.names_iff.mpr ⟨run, other⟩
  | .negation keyword negates inner, runs =>
      inner.names fun token member => runs token (List.mem_cons_of_mem keyword member)
  | .group opening opens inner closing closes, runs =>
      inner.names fun token member =>
        runs token (List.mem_cons_of_mem opening (List.mem_append_left _ member))
  | .joined first more, runs =>
      more.names (fun token member => runs token (List.mem_append_right _ member))
        (first.names fun token member => runs token (List.mem_append_left _ member))

/-- Joining further such operands keeps this. -/
theorem Further.names {junction : Junction} : ∀ more : Further junction,
    (∀ token ∈ more.tokens, token.kind = .word → IsRun token.text) →
    ∀ {left : Condition}, (∀ column ∈ left.columnNames, Condition.Names column) →
      ∀ column ∈ (more.joinTo left).columnNames, Condition.Names column
  | .none, _, _, namedLeft => namedLeft
  | .next keyword _ operand more, runs, _, namedLeft =>
      more.names
        (fun token member => runs token
          (List.mem_cons_of_mem keyword (List.mem_append_right _ member)))
        (Condition.names_join namedLeft
          (operand.names fun token member => runs token
            (List.mem_cons_of_mem keyword (List.mem_append_left _ member))) junction)

end

/-- **Conditions of queries are well formed.** -/
theorem wellFormed_of_parse {text : String} {query : Query} {condition : Condition}
    (parsed : Query.parse text = .ok query) (restricted : query.condition = some condition) :
    condition.WellFormed := by
  unfold Query.parse at parsed
  split at parsed
  · rename_i tokens scanned
    obtain ⟨derivation, rfl, rfl⟩ := query_derives parsed
    obtain ⟨restriction, present, rfl⟩ := Option.map_eq_some_iff.mp restricted
    refine ⟨?_, restriction.condition.names fun token member word => ?_⟩
    · obtain ⟨-, low, -⟩ | ⟨-, token, refused⟩ := query_answers derivation
      · rwa [QueryDerivation.height, present] at low
      · rw [refused] at parsed
        cases parsed
    · refine word_of_scan scanned token ?_ word
      rw [QueryDerivation.tokens, present]
      exact List.mem_cons_of_mem _ (List.mem_append_right _ (List.mem_cons_of_mem _
        (List.mem_cons_of_mem _ (List.mem_cons_of_mem _ member))))
  · cases parsed

end Grammar

/-! ## Predicates -/

namespace Predicate

variable {R : Type} [RowType R]

/-- **Lowering keeps the tree.** A predicate comes from the condition it was made for, and has its
text. -/
theorem text_of_lower {scope : Scope R} {condition : Condition} {predicate : Predicate R}
    (lowered : lower scope condition = .ok predicate) :
    predicate.text = condition.text ∧ predicate.toCondition = condition := by
  induction condition generalizing predicate with
  | comparison name operator literal =>
      obtain ⟨column, constant, -, -, rfl⟩ := lower_comparison_iff.mp lowered
      exact ⟨rfl, rfl⟩
  | and left right ihLeft ihRight =>
      obtain ⟨first, second, lowerFirst, lowerSecond, rfl⟩ := lower_and_iff.mp lowered
      obtain ⟨textFirst, treeFirst⟩ := ihLeft lowerFirst
      obtain ⟨textSecond, treeSecond⟩ := ihRight lowerSecond
      rw [text, textFirst, textSecond, toCondition, treeFirst, treeSecond]
      exact ⟨rfl, rfl⟩
  | or left right ihLeft ihRight =>
      obtain ⟨first, second, lowerFirst, lowerSecond, rfl⟩ := lower_or_iff.mp lowered
      obtain ⟨textFirst, treeFirst⟩ := ihLeft lowerFirst
      obtain ⟨textSecond, treeSecond⟩ := ihRight lowerSecond
      rw [text, textFirst, textSecond, toCondition, treeFirst, treeSecond]
      exact ⟨rfl, rfl⟩
  | not inner ih =>
      obtain ⟨negated, lowerInner, rfl⟩ := ok_of_map_eq_ok lowered
      obtain ⟨textInner, treeInner⟩ := ih lowerInner
      rw [text, textInner, toCondition, treeInner]
      exact ⟨rfl, rfl⟩

end Predicate

/-- **Writing and reading conditions.** A query for the whole rows that meet a well-formed condition
reads as that query, floats that are not numbers being identified. Every condition that a query can
have is well formed, and so reads back as itself up to this. The predicate of a condition has the
text of the condition and comes from it, so its text reads back in the same way. -/
theorem Condition.text_round_trip :
    (∀ condition : Condition, condition.WellFormed →
      Query.parse ("SELECT * FROM $ WHERE " ++ condition.text) =
        .ok ⟨.all, some condition.identifyNaN⟩) ∧
    (∀ (text : String) (query : Query) (condition : Condition),
      Query.parse text = .ok query → query.condition = some condition →
      condition.WellFormed ∧
        Query.parse ("SELECT * FROM $ WHERE " ++ condition.text) =
          .ok ⟨.all, some condition.identifyNaN⟩) ∧
    (∀ (R : Type) [RowType R] (scope : Scope R) (condition : Condition) (predicate : Predicate R),
      Predicate.lower scope condition = .ok predicate →
      predicate.text = condition.text ∧ predicate.toCondition = condition ∧
        (condition.WellFormed → Query.parse ("SELECT * FROM $ WHERE " ++ predicate.text) =
          .ok ⟨.all, some condition.identifyNaN⟩)) := by
  refine ⟨?_, ?_, ?_⟩
  · intro condition wellFormed
    exact Grammar.parse_text wellFormed
  · intro text query condition parsed restricted
    have wellFormed := Grammar.wellFormed_of_parse parsed restricted
    exact ⟨wellFormed, Grammar.parse_text wellFormed⟩
  · intro R _ scope condition predicate lowered
    obtain ⟨text, tree⟩ := Predicate.text_of_lower lowered
    refine ⟨text, tree, fun wellFormed => ?_⟩
    rw [text]
    exact Grammar.parse_text wellFormed

/-- Columns that are named like keywords, a text with quotes and operators in it, and a float that
is not a number. -/
def Demo.awkward : Condition :=
  .and (.not (.comparison "or" .notEqual (.string "it's (= 1)")))
    (.or (.comparison "AND" .lessOrEqual (.float ⟨0x3dcccccd⟩))
      (.comparison "x" .equals (.float ⟨0xffc00001⟩)))

/-- A comparison with a float that is not a number and has a sign. -/
def Demo.signedNaN : Condition := .comparison "x" .lessThan (.float ⟨0xffc00000⟩)

/-- The awkward condition, the condition of the query for teams, and its predicate all read back. A
sign that was read is lost when it is written, which `identifyNaN` allows for. -/
theorem Condition.text_round_trip_teams :
    Demo.awkward.WellFormed ∧
    Query.parse ("SELECT * FROM $ WHERE " ++ Demo.awkward.text) =
      .ok ⟨.all, some Demo.awkward.identifyNaN⟩ ∧
    Query.parse "SELECT * FROM $ WHERE x < -nan" = .ok ⟨.all, some Demo.signedNaN⟩ ∧
    Query.parse ("SELECT * FROM $ WHERE " ++ Demo.signedNaN.text) =
      .ok ⟨.all, some (.comparison "x" .lessThan (.float Binary32.nan))⟩ ∧
    Query.parse Demo.teamText = .ok Demo.teamQuery ∧
    ∃ condition predicate, Demo.teamQuery.condition = some condition ∧
      Query.parse ("SELECT * FROM $ WHERE " ++ condition.text) = .ok ⟨.all, some condition⟩ ∧
      Predicate.lower Demo.teams condition = .ok predicate ∧ predicate.text = condition.text ∧
      predicate.toCondition = condition := by
  have awkward : Demo.awkward.WellFormed := ⟨by decide, by decide⟩
  have signed : Query.parse "SELECT * FROM $ WHERE x < -nan" =
      .ok ⟨.all, some Demo.signedNaN⟩ := by decide +kernel
  obtain ⟨-, unsigned⟩ := Condition.text_round_trip.2.1 _ _ _ signed rfl
  have parsed : Query.parse Demo.teamText = .ok Demo.teamQuery := by decide +kernel
  obtain ⟨wellFormed, reread⟩ :=
    Condition.text_round_trip.2.1 Demo.teamText Demo.teamQuery _ parsed rfl
  have lowers : (Predicate.lower Demo.teams (.not (.or (.comparison "team" .equals .null)
      (.comparison "age" .lessThan (.integer 30))))).isOk = true := by decide +kernel
  cases lowered : Predicate.lower Demo.teams (.not (.or (.comparison "team" .equals .null)
      (.comparison "age" .lessThan (.integer 30)))) with
  | error cause =>
      rw [lowered] at lowers
      cases lowers
  | ok predicate =>
      obtain ⟨text, tree, -⟩ :=
        Condition.text_round_trip.2.2 Person Demo.teams _ predicate lowered
      exact ⟨awkward, Condition.text_round_trip.1 Demo.awkward awkward, signed, unsigned, parsed, _,
        predicate, rfl, reread, lowered, text, tree⟩

end RowQuery
