import RowFilter.Pattern.Matching
import RowFilter.Proofs.Engine.AllowList
import RowFilter.Proofs.Paging
import RowFilter.Proofs.Search.Scope

/-! # The list of allowed names and the search

The list of allowed names is asked for by the validator, and the validator sees the filters of a
request only. The compiler adds the tests of a search after that, for fields that the client names
or for the whole catalogue, and does not know the list. So the filters of a request are about
nothing outside of the list, but the search is exactly if the client asks for it.
-/

namespace RowFilter

open Outcome

/-- The names that the search of a request tests, if it has one. -/
def Schema.searchedBy (schema : Schema) (p : PageRequest) : List String :=
  match p.globalSearch with
  | none => []
  | some search =>
    if (Unicode.trim search).isEmpty then []
    else GlobalSearch.searched schema (Unicode.trim search) p.searchFields

namespace Compiler

variable {k : Compiler} {p : PageRequest}

/-- What a search adds is about the names that it tests. -/
theorem testedNames_searchFragment {fragment : Option Criteria}
    (found : k.searchFragment p = .ok fragment) :
    fragment.toList.flatMap Criteria.testedNames = k.schema.searchedBy p := by
  unfold searchFragment at found
  unfold Schema.searchedBy
  cases given : p.globalSearch with
  | none =>
      rw [given] at found
      cases found
      rfl
  | some search =>
      rw [given] at found
      cases fragment with
      | none =>
          rcases GlobalSearch.build_eq_ok_none.mp found with blank | ⟨-, unmatched⟩
          · simp [blank]
          · simp [unmatched]
      | some c =>
          obtain ⟨filled, -, -, rfl⟩ := GlobalSearch.build_eq_ok_some.mp found
          simp [filled, GlobalSearch.testedNames_or_parts]

end Compiler

namespace Engine

variable {e : Engine} {p : PageRequest} {log : List SecurityEvent}

section

variable [PatternEngine]

theorem query_eq (e : Engine) (store : Store) (p : PageRequest) (log : List SecurityEvent) :
    (e.query store p log).1 =
      if (e.validate p.filters log).1.valid then (e.compiler.answer store p).mapError .query
      else .error (.invalid (e.validate p.filters log).1) := by
  rw [query, Assembly.query, assembly_validate, assembly_compiler, Logged.bind_run]
  cases (e.validate p.filters log).1.valid <;> rfl

/-- What is answered is the page of the criteria that the request compiles to. -/
theorem query_eq_ok {store : Store} {q : Page} :
    (e.query store p log).1 = .ok q ↔
      ∃ c, (e.compile p log).1 = .ok c ∧ Store.Decides c store.rows ∧
        q = e.compiler.pageOf store p (e.compiler.matching store p c) := by
  rw [query_eq, compile_eq]
  simp only [outcome_eq_ok]
  split
  · rename_i valid
    simp only [mapError_eq_ok, Compiler.answer_eq_ok, valid, true_and]
  · rename_i refused
    simp [refused]

/-- A request compiles to what it would without its search, and the search beside it. -/
theorem compile_eq_ok {c : Criteria} :
    (e.compile p log).1 = .ok c ↔
      ∃ filters fragment, (e.compile { p with globalSearch := none } log).1 = .ok filters ∧
        e.compiler.searchFragment p = .ok fragment ∧ c = .and (filters :: fragment.toList) := by
  simp only [compile_eq, outcome_eq_ok, criteriaOfRequest_filters,
    Compiler.criteriaOfRequest_eq_ok (p := p)]
  constructor
  · rintro ⟨valid, filters, fragment, compiled, found, same⟩
    exact ⟨filters, fragment, ⟨valid, compiled⟩, found, same⟩
  · rintro ⟨filters, fragment, ⟨valid, compiled⟩, found, same⟩
    exact ⟨valid, filters, fragment, compiled, found, same⟩

/-- The filters of a request are about nothing that is not allowed. -/
theorem testedNames_filters {names : List String}
    (restricted : e.config.allowedFields = some names)
    (plain : ∀ q ∈ Condition.predicates p.filters, q.isCustom = false) {filters : Criteria}
    (accepted : (e.compile { p with globalSearch := none } log).1 = .ok filters) :
    ∀ name ∈ filters.testedNames, name ∈ names := by
  intro name tested
  rw [compile_eq, criteriaOfRequest_filters rfl] at accepted
  obtain ⟨valid, compiled⟩ := outcome_eq_ok.mp accepted
  have forgivable :=
    Validator.forgivable_of_findingsIn_eq_nil (Validator.validate_valid_iff.mp valid)
  have allowed := allows_of_criteriaOfForest forgivable plain compiled tested
  simpa [Validator.allows, validator, restricted] using allowed

end

theorem testedNames_and (filters : Criteria) (fragment : Option Criteria) :
    (Criteria.and (filters :: fragment.toList)).testedNames =
      filters.testedNames ++ fragment.toList.flatMap Criteria.testedNames := by
  rw [Criteria.and, Criteria.testedNames_combine fun _ => rfl, Criteria.namesIn]
  cases fragment <;> rfl

/-- The search of a text field is not refused. -/
theorem compile_textSearch [PatternEngine] {name text : String} {config : FieldConfig}
    (known : e.schema.fields.get? name = some config) (textual : config.kind.isText = true)
    (filled : (Unicode.trim text).isEmpty = false)
    (fits : (Unicode.trim text).length ≤ e.config.limits.maxStringLength) :
    (e.compile { globalSearch := some text, searchFields := some [name] } log).1 =
      .ok (.field name (.contains (Unicode.trim text))) := by
  have tested : GlobalSearch.testOf? e.schema (Unicode.trim text) name =
      some (.contains (Unicode.trim text)) := by
    rw [GlobalSearch.testOf?, known, Option.bind_some, GlobalSearch.test?, if_pos textual]
  have nothing : e.compiler.criteriaOfForest [] .and = .ok .empty :=
    Compiler.criteriaOfForest_eq_ok.mpr ⟨Nat.zero_le _, [], rfl, rfl⟩
  refine compile_eq_ok.mpr ⟨.empty, some (.field name (.contains (Unicode.trim text))), ?_, ?_, rfl⟩
  · rw [compile_eq, criteriaOfRequest_filters rfl]
    exact outcome_eq_ok.mpr ⟨Validator.validate_valid_iff.mpr rfl, nothing⟩
  · rw [Compiler.searchFragment]
    exact (GlobalSearch.build_one filled fits name).trans
      (congrArg (fun test => Except.ok (test.map (Criteria.field name))) tested)

/-- With a list of allowed names, a request compiles to its filters, which are about nothing
outside of the list, and its search, which is about the fields that it is asked to test whatever
the list says. So criteria without handlers keep to the list exactly if the search does, and a query
that is answered runs these criteria. Any field of text can be searched. -/
theorem search_beside_allowed [PatternEngine] {names : List String}
    (restricted : e.config.allowedFields = some names) :
    (∀ (p : PageRequest) log c, (e.compile p log).1 = .ok c →
      ∃ (filters : Criteria) (fragment : Option Criteria),
        (e.compile { p with globalSearch := none } log).1 = .ok filters ∧
        c = .and (filters :: fragment.toList) ∧
        fragment.toList.flatMap Criteria.testedNames = e.schema.searchedBy p ∧
        ((∀ q ∈ Condition.predicates p.filters, q.isCustom = false) →
          (∀ name ∈ filters.testedNames, name ∈ names) ∧
          ((∀ name ∈ c.testedNames, name ∈ names) ↔
            ∀ name ∈ e.schema.searchedBy p, name ∈ names))) ∧
    (∀ store (p : PageRequest) log q, (e.query store p log).1 = .ok q →
      ∃ c, (e.compile p log).1 = .ok c ∧
        q = e.compiler.pageOf store p (e.compiler.matching store p c)) ∧
    (∀ name config text log, e.schema.fields.get? name = some config → config.kind.isText = true →
      (Unicode.trim text).isEmpty = false →
      (Unicode.trim text).length ≤ e.config.limits.maxStringLength →
      (e.compile { globalSearch := some text, searchFields := some [name] } log).1 =
        .ok (.field name (.contains (Unicode.trim text)))) := by
  refine ⟨fun p log c accepted => ?_, fun store p log q answered => ?_, ?_⟩
  · obtain ⟨filters, fragment, filtered, found, rfl⟩ := compile_eq_ok.mp accepted
    have searched := Compiler.testedNames_searchFragment found
    refine ⟨filters, fragment, filtered, rfl, searched, fun plain => ?_⟩
    have within := testedNames_filters restricted plain filtered
    refine ⟨within, ?_⟩
    rw [testedNames_and, searched, List.forall_mem_append]
    exact and_iff_right within
  · obtain ⟨c, accepted, -, same⟩ := query_eq_ok.mp answered
    exact ⟨c, accepted, same⟩
  · exact fun name config text log => compile_textSearch

/-- A request for allowed fields, one of them by a filter and one by the search. -/
theorem search_beside_allowed_kept :
    let names := ["name", "city"]
    let e : Engine :=
      { schema := { name := "User", fields := .ofList [("name", {}), ("city", {}), ("note", {})] }
        config := { allowedFields := some names } }
    let p : PageRequest :=
      { filters := [.onField "a" "name" .eq (.string "Ann")], globalSearch := some "x",
        searchFields := some ["city"] }
    let c : Criteria := .allOf [.field "name" (.eq (.string "Ann")), .field "city" (.contains "x")]
    e.config.allowedFields = some names ∧ (e.compile p []).1 = .ok c ∧
      c.testedNames = ["name", "city"] ∧ (∀ name ∈ c.testedNames, name ∈ names) ∧
      (e.compile { globalSearch := some "x", searchFields := some ["note"] } []).1 =
        .ok (.field "note" (.contains "x")) := by
  intro names e p c
  have accepted : (e.compile p []).1 = .ok c := by
    rw [compile_eq]
    exact outcome_eq_ok.mpr ⟨Validator.validate_valid_iff.mpr rfl, rfl⟩
  have plain : ∀ q ∈ Condition.predicates p.filters, q.isCustom = false := by
    simp [p, Condition.onField, Clause.predicate, Predicate.isCustom]
  have restricted : e.config.allowedFields = some names := rfl
  obtain ⟨compiles, -, leaks⟩ := search_beside_allowed restricted
  obtain ⟨filters, fragment, -, -, -, judged⟩ := compiles p [] c accepted
  have asked : e.schema.searchedBy p = ["city"] := rfl
  have within := (judged plain).2.mpr (by simp [asked, names])
  exact ⟨restricted, accepted, rfl, within, leaks "note" {} "x" [] rfl rfl rfl (by decide)⟩

/-- Only names may be tested, but a search of the whole catalogue tests the notes as well. -/
theorem searched_outside_allowed :
    let e : Engine :=
      { schema := { name := "User", fields := .ofList [("name", {}), ("note", {})] }
        config := { allowedFields := some ["name"] } }
    let store : Store :=
      ⟨[[("id", .ofInt 1), ("note", .string "x")], [("id", .ofInt 2), ("note", .string "y")]]⟩
    let p : PageRequest := { globalSearch := some "x", selectFields := some ["id"] }
    (e.compile p []).1 =
        .ok (.anyOf [.field "name" (.contains "x"), .field "note" (.contains "x")]) ∧
      e.validator.allows "note" = false ∧
      (e.query store p []).1 = .ok (.new [[("id", .ofInt 1)]] 2 1 1 25) := by
  intro e store p
  have valid : (e.validate p.filters []).1.valid = true := Validator.validate_valid_iff.mpr rfl
  refine ⟨?_, rfl, ?_⟩
  · rw [compile_eq]
    exact outcome_eq_ok.mpr ⟨valid, rfl⟩
  · have answered : e.compiler.answer store p = .ok (.new [[("id", .ofInt 1)]] 2 1 1 25) := by
      subst e store p
      rfl
    rw [query_eq, if_pos valid, answered]
    rfl

end Engine

end RowFilter
