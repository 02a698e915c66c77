import RowFilter.CommandLine.Run
import RowFilter.Proofs.Condition.Record

/-! # Stored filters survive a write and a read

Conditions, documents and requests are read as they were written, except that null as an operand
or as a handler's parameters is lost. Nothing that was read holds it there, so what was read once
is read the same ever after. A bare list of conditions is a filter from before versions were
written.
-/

namespace RowFilter

/-- What is stored by `encode` and loaded by `decode`: storable things come back, and only storable
things come. -/
structure RoundTrip (encode : α → Json) (decode : Json → Option α) (storable : α → Prop) :
    Prop where
  survives : ∀ a, storable a → decode (encode a) = some a
  storable_of_read : ∀ v a, decode v = some a → storable a
  /-- What was loaded once is loaded the same again. -/
  reread : ∀ v a, decode v = some a → decode (encode a) = some a

namespace RoundTrip

variable {encode : α → Json} {decode : Json → Option α} {storable : α → Prop}

theorem of_storable (survives : ∀ a, storable a → decode (encode a) = some a)
    (read : ∀ v a, decode v = some a → storable a) : RoundTrip encode decode storable where
  survives := survives
  storable_of_read := read
  reread v a found := survives a (read v a found)

end RoundTrip

theorem Condition.roundTrip : RoundTrip toJson ofJson? fun c => Storable [c] :=
  .of_storable (fun _ => ofJson?_toJson) fun _ _ => storable_of_ofJson?

@[simp] theorem SortDirection.ofJson?_string_tag (d : SortDirection) :
    ofJson? (.string d.tag) = some d := by
  cases d <;> decide

namespace Document

def members (d : Document) : List (String × Option Json) :=
  [("version", some (.ofUInt32 d.version)),
   ("conditions", some (Condition.listToJson d.conditions))]

theorem toJson_eq (d : Document) : d.toJson = Json.objectOf d.members := rfl

theorem ofJson?_toJson {d : Document} (storable : Condition.Storable d.conditions) :
    ofJson? d.toJson = some d := by
  have distinct : (d.members.map Prod.fst).Nodup :=
    show ["version", "conditions"].Nodup by decide
  have known : ∀ name ∈ d.members.map Prod.fst, name ∈ ["version", "conditions"] :=
    fun name inside => inside
  obtain ⟨r, found, stands⟩ := Json.record?_objectOf distinct known
  simp only [members, List.forall_mem_cons] at stands
  obtain ⟨version, conditions, -⟩ := stands
  rw [toJson_eq, ofJson?, found]
  simp only [Option.bind_eq_bind, Option.bind_some, Json.defaulted?_of_member version,
    Json.asUInt32?_ofUInt32, Json.defaulted?_of_member conditions,
    Condition.listOfJson?_listToJson storable]

theorem storable_of_ofJson? {v : Json} {d : Document} (read : ofJson? v = some d) :
    Condition.Storable d.conditions := by
  simp only [ofJson?, Option.bind_eq_bind, Option.bind_eq_some_iff] at read
  obtain ⟨r, -, version, -, conditions, found, same⟩ := read
  cases same
  exact Condition.storable_of_defaulted? found

theorem roundTrip : RoundTrip toJson ofJson? fun d => Condition.Storable d.conditions :=
  .of_storable (fun _ => ofJson?_toJson) fun _ _ => storable_of_ofJson?

/-- A list that starts with a node is no document: a node is no version. -/
theorem ofJson?_of_list {v : Json} {c : Condition} {rest : List Condition}
    (read : Condition.listOfJson? v = some (c :: rest)) : ofJson? v = none := by
  cases v with
  | null | bool b | number n | string s | object members => cases read
  | array items =>
      cases items with
      | nil => cases read
      | cons first others =>
          obtain ⟨node, found, -⟩ := Option.bind_eq_some_iff.mp read
          have noVersion : Json.asUInt32? first = none := by
            cases first <;> first | rfl | cases found
          rw [ofJson?, Json.record?]
          split
          · simp [Json.defaulted?, Json.member?, noVersion]
          · rfl

/-- A bare list of conditions is read as a filter without a version. -/
theorem ofStored?_of_list {v : Json} {forest : List Condition} (readable : v.isReadable = true)
    (read : Condition.listOfJson? v = some forest) : ofStored? v = some ⟨unversioned, forest⟩ := by
  rw [ofStored?, if_neg (by simp [readable])]
  cases forest with
  | nil =>
      obtain ⟨items, rfl⟩ : ∃ items, v = .array items := by
        cases v <;> first | exact ⟨_, rfl⟩ | cases read
      cases items with
      | nil => rfl
      | cons first others =>
          obtain ⟨node, -, later⟩ := Option.bind_eq_some_iff.mp read
          obtain ⟨remaining, -, same⟩ := Option.bind_eq_some_iff.mp later
          cases same
  | cons c rest => rw [ofJson?_of_list read, read, Option.map_some]

end Document

namespace PageRequest

def memberNames : List String :=
  ["page", "limit", "sort", "sortDirection", "filters", "globalSearch", "searchFields",
   "selectFields"]

def members (p : PageRequest) : List (String × Option Json) :=
  [("page", some (.ofUInt32 p.page)),
   ("limit", some (.ofUInt32 p.limit)),
   ("sort", p.sort.map .string),
   ("sortDirection", some (.string p.sortDirection.tag)),
   ("filters", some (Condition.listToJson p.filters)),
   ("globalSearch", p.globalSearch.map .string),
   ("searchFields", p.searchFields.map Json.ofStrings),
   ("selectFields", p.selectFields.map Json.ofStrings)]

theorem toJson_eq (p : PageRequest) : p.toJson = Json.objectOf p.members := rfl

theorem ofJson?_toJson {p : PageRequest} (storable : Condition.Storable p.filters) :
    ofJson? p.toJson = some p := by
  have distinct : (p.members.map Prod.fst).Nodup := show memberNames.Nodup by decide
  have known : ∀ name ∈ p.members.map Prod.fst, name ∈ memberNames := fun name inside => inside
  obtain ⟨r, found, stands⟩ := Json.record?_objectOf distinct known
  simp only [members, List.forall_mem_cons] at stands
  obtain ⟨page, limit, sort, sortDirection, filters, globalSearch, searchFields, selectFields, -⟩ :=
    stands
  rw [memberNames] at found
  rw [toJson_eq, ofJson?, found]
  simp only [Option.bind_eq_bind, Option.bind_some, Json.defaulted?_of_member page,
    Json.defaulted?_of_member limit, Json.asUInt32?_ofUInt32, Json.optional?_text sort,
    Json.defaulted?_of_member sortDirection, SortDirection.ofJson?_string_tag,
    Json.defaulted?_of_member filters, Condition.listOfJson?_listToJson storable,
    Json.optional?_text globalSearch, Json.optional?_texts searchFields,
    Json.optional?_texts selectFields]

theorem storable_of_ofJson? {v : Json} {p : PageRequest} (read : ofJson? v = some p) :
    Condition.Storable p.filters := by
  simp only [ofJson?, Option.bind_eq_bind, Option.bind_eq_some_iff] at read
  obtain ⟨r, -, page, -, limit, -, sort, -, sortDirection, -, filters, found, globalSearch, -,
    searchFields, -, selectFields, -, same⟩ := read
  cases same
  exact Condition.storable_of_defaulted? found

theorem roundTrip : RoundTrip toJson ofJson? fun p => Condition.Storable p.filters :=
  .of_storable (fun _ => ofJson?_toJson) fun _ _ => storable_of_ofJson?

end PageRequest

namespace CommandLine

/-- What loading gives, from what reading the file gave. -/
def loadedAs {α : Type} (path : String) (decode : Json → Option α) :
    Except String String → Except CommandError α
  | .error reason => .error (.read path reason)
  | .ok text =>
    match (Json.ofText? text).bind decode with
    | some v => .ok v
    | none => .error (.parse path)

/-- Loading reads the file once, and the content alone decides. -/
theorem load_eq {α : Type} {m : Type → Type} [Monad m] [LawfulMonad m] (files : FileAccess m)
    (path : String) (decode : Json → Option α) :
    (load files path decode).run = loadedAs path decode <$> files.read path := by
  have lifted : (liftM (files.read path) : Action m (Except String String)).run =
      Except.ok <$> files.read path := rfl
  rw [load, ExceptT.run_bind, lifted, bind_map_left, map_eq_pure_bind]
  refine bind_congr fun content => ?_
  cases content with
  | error reason => rfl
  | ok text =>
      simp only [loadedAs]
      cases (Json.ofText? text).bind decode <;> rfl

/-- The filter in a file, from what reading the file gave. -/
def filterIn (path : String) : Except String String → Except CommandError Document :=
  loadedAs path Document.ofStored?

/-- Reading a filter reads its file once, and the content alone decides. -/
theorem readFilter_eq {m : Type → Type} [Monad m] [LawfulMonad m] (files : FileAccess m)
    (path : String) : (readFilter files path).run = filterIn path <$> files.read path :=
  load_eq files path Document.ofStored?

theorem filterIn_list {path text : String} {forest : List Condition}
    (storable : Condition.Storable forest)
    (given : Json.ofText? text = some (Condition.listToJson forest)) :
    filterIn path (.ok text) = .ok ⟨Document.unversioned, forest⟩ := by
  rw [filterIn, loadedAs, given, Option.bind_some,
    Document.ofStored?_of_list (Condition.isReadable_listToJson storable)
      (Condition.listOfJson?_listToJson storable)]

end CommandLine

/-- Conditions, documents and requests come back from storage as they went in, and what came back
once comes back the same again. A bare list of conditions is loaded as a filter without a
version; only the empty list is also a document, and the same one. -/
theorem stored_filters_survive :
    RoundTrip Condition.toJson Condition.ofJson? (fun c => Condition.Storable [c]) ∧
    RoundTrip Document.toJson Document.ofJson? (fun d => Condition.Storable d.conditions) ∧
    RoundTrip PageRequest.toJson PageRequest.ofJson? (fun p => Condition.Storable p.filters) ∧
    ∀ forest, Condition.Storable forest →
      (forest ≠ [] → Document.ofJson? (Condition.listToJson forest) = none) ∧
      Document.ofStored? (Condition.listToJson forest) = some ⟨Document.unversioned, forest⟩ ∧
      ∀ {m : Type → Type} [Monad m] [LawfulMonad m] (files : CommandLine.FileAccess m)
        (path : String),
        (CommandLine.readFilter files path).run =
          CommandLine.filterIn path <$> files.read path ∧
        ∀ text, Json.ofText? text = some (Condition.listToJson forest) →
          CommandLine.filterIn path (.ok text) = .ok ⟨Document.unversioned, forest⟩ := by
  refine ⟨Condition.roundTrip, Document.roundTrip, PageRequest.roundTrip, fun forest storable => ?_⟩
  have read := Condition.listOfJson?_listToJson storable
  refine ⟨fun nonempty => ?_,
    Document.ofStored?_of_list (Condition.isReadable_listToJson storable) read,
    fun files path => ⟨CommandLine.readFilter_eq files path,
      fun text => CommandLine.filterIn_list storable⟩⟩
  obtain ⟨c, rest, rfl⟩ := List.exists_cons_of_ne_nil nonempty
  exact Document.ofJson?_of_list read

/-- A test of a row's age, written out and as a list of values. -/
theorem stored_filters_survive_age :
    let c := Condition.leaf
      { id := "a", field := some "age", operator := some "gt", value := some (.bool true) }
    let placed := Json.array [.string "a", .null, .null, .string "age", .string "gt", .bool true]
    let text := "[\x7b\"id\":\"a\",\"field\":\"age\",\"operator\":\"gt\",\"value\":true\x7d]"
    Condition.Storable [c] ∧ Condition.ofJson? c.toJson = some c ∧
    Document.ofJson? (Document.toJson ⟨7, [c]⟩) = some ⟨7, [c]⟩ ∧
    PageRequest.ofJson? (PageRequest.toJson { filters := [c] }) = some { filters := [c] } ∧
    Condition.ofJson? placed = some c ∧
    Document.ofJson? (Condition.listToJson [c]) = none ∧
    Json.ofText? text = some (Condition.listToJson [c]) ∧
    (CommandLine.readFilter CommandLine.Files.access "f.json").run =
      CommandLine.filterIn "f.json" <$> CommandLine.Files.access.read "f.json" ∧
    CommandLine.filterIn "f.json" (.ok text) = .ok ⟨1, [c]⟩ := by
  intro c placed text
  have storable : Condition.Storable [c] := by
    refine Condition.storable_leaf_cons.mpr ⟨?_, Condition.storable_nil⟩
    exact { value := by rintro v ⟨⟩; exact ⟨Json.noConfusion, trivial⟩
            handlerParams := by rintro v ⟨⟩
            rawParams := by rintro items ⟨⟩ }
  have read : Condition.ofJson? placed = some c := by rfl
  have written : Json.ofText? text = some (Condition.listToJson [c]) := by
    rw [Json.ofText?]
    simp only [text, String.reduceToList]
    rfl
  obtain ⟨conditions, documents, requests, lists⟩ := stored_filters_survive
  obtain ⟨noDocument, -, run⟩ := lists [c] storable
  obtain ⟨once, found⟩ := run CommandLine.Files.access "f.json"
  exact ⟨storable, conditions.reread placed c read, documents.survives ⟨7, [c]⟩ storable,
    requests.survives { filters := [c] } storable, read, noDocument (List.cons_ne_nil _ _),
    written, once, found text written⟩

end RowFilter
