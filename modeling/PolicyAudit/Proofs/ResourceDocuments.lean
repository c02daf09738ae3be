/-
Module: PolicyAudit.Proofs.ResourceDocuments
Purpose: A list of declarations means the same as it is and as an entry of an object, and it is read
  as a whole or not at all.
Imports: Mathlib, PolicyAudit.Proofs.JsonDenotation, PolicyAudit.Resource.Declaration
Trusted boundary: none
Main exports: Json.Declares, Json.filter_eq_singleton_iff, Declaration.ofJson?_eq_some_iff,
  Declaration.listOfJson?_object, Resource.readList_of_read, Resource.readList_documents
-/
import Mathlib
import PolicyAudit.Proofs.JsonDenotation
import PolicyAudit.Resource.Declaration

namespace PolicyAudit

/-! ### Records -/

/-- The record declares the resource.  It is an object that names the type and the identifier once
and the configuration at most once, beside any other keys, or a list of the three.  The
configuration is the tree that its value denotes; one that is left out is null. -/
inductive Json.Declares : Json → Resource → Prop where
  | object {entries : List (String × Json)} {resourceType resourceId : String} {value : Json}
      {config : ConfigTree}
      (typeOnce : entries.filter (·.1 = "resource_type") = [("resource_type", .string resourceType)])
      (idOnce : entries.filter (·.1 = "resource_id") = [("resource_id", .string resourceId)])
      (configOnce : entries.filter (·.1 = "config") = [("config", value)])
      (denotes : value.Denotes config) :
      Declares (.object entries) ⟨resourceType, resourceId, config⟩
  | bareObject {entries : List (String × Json)} {resourceType resourceId : String}
      (typeOnce : entries.filter (·.1 = "resource_type") = [("resource_type", .string resourceType)])
      (idOnce : entries.filter (·.1 = "resource_id") = [("resource_id", .string resourceId)])
      (noConfig : entries.filter (·.1 = "config") = []) :
      Declares (.object entries) ⟨resourceType, resourceId, .scalar .null⟩
  | list (resourceType resourceId : String) {value : Json} {config : ConfigTree}
      (denotes : value.Denotes config) :
      Declares (.array [.string resourceType, .string resourceId, value])
        ⟨resourceType, resourceId, config⟩
  | bareList (resourceType resourceId : String) :
      Declares (.array [.string resourceType, .string resourceId])
        ⟨resourceType, resourceId, .scalar .null⟩

namespace Json

variable {entries : List (String × Json)} {name : String}

theorem get?_object (entries : List (String × Json)) (name : String) :
    (object entries).get? name = (entries.filter (·.1 = name)).head?.map (·.2) := by
  rw [get?, List.head?_filter]

/-- A name stands once in an object if it is not repeated and has a value. -/
theorem filter_eq_singleton_iff {value : Json} :
    entries.filter (·.1 = name) = [(name, value)] ↔
      (entries.filter (·.1 = name)).length ≤ 1 ∧ (object entries).get? name = some value := by
  have named : ∀ entry ∈ entries.filter (·.1 = name), entry.1 = name := by
    intro entry member
    exact of_decide_eq_true (List.mem_filter.mp member).2
  rw [get?_object]
  cases found : entries.filter (·.1 = name) with
  | nil => simp
  | cons entry others =>
      have key : entry.1 = name := named entry (by simp [found])
      cases others with
      | nil => simp [Prod.ext_iff, key]
      | cons next others => simp

/-- A name stands nowhere in an object if it is not repeated and has no value. -/
theorem filter_eq_nil_iff :
    entries.filter (·.1 = name) = [] ↔
      (entries.filter (·.1 = name)).length ≤ 1 ∧ (object entries).get? name = none := by
  rw [get?_object]
  cases entries.filter (·.1 = name) with
  | nil => simp
  | cons entry others => simp

end Json

namespace Declaration

open Json (Declares parts? needed? string?)

/-- What a record declares if its parts are known. -/
theorem ofJson?_of_parts {value : Json} {resourceType resourceId config : Option Json}
    (parts : value.parts? fields = some [resourceType, resourceId, config]) (resource : Resource) :
    (ofJson? value).map Declaration.resource = some resource ↔
      ∃ typeText idText, resourceType = some (.string typeText) ∧
        resourceId = some (.string idText) ∧
        ⟨typeText, idText, .ofJson (config.getD .null).merged⟩ = resource := by
  have text : ∀ (part : Option Json) (s : String),
      needed? string? part = some s ↔ part = some (.string s) := by
    intro part s
    cases part with
    | none => simp [needed?]
    | some value => cases value <;> simp [needed?, string?]
  simp [ofJson?, parts, Option.bind_eq_some_iff, text, Declaration.resource]

/-- What an object declares, by the values at its names. -/
theorem declares_object_iff {entries : List (String × Json)} {resource : Resource} :
    (Json.object entries).Declares resource ↔
      (∀ name ∈ fields, (entries.filter (·.1 = name)).length ≤ 1) ∧
      ∃ typeText idText, (Json.object entries).get? "resource_type" = some (.string typeText) ∧
        (Json.object entries).get? "resource_id" = some (.string idText) ∧
        ⟨typeText, idText, .ofJson (((Json.object entries).get? "config").getD .null).merged⟩ =
          resource := by
  have inFields : ∀ P : String → Prop,
      (∀ name ∈ fields, P name) ↔ P "resource_type" ∧ P "resource_id" ∧ P "config" := by
    simp [fields]
  rw [inFields]
  constructor
  · intro declares
    cases declares with
    | object typeOnce idOnce configOnce denotes =>
        rw [Json.filter_eq_singleton_iff] at typeOnce idOnce configOnce
        refine ⟨⟨typeOnce.1, idOnce.1, configOnce.1⟩, _, _, typeOnce.2, idOnce.2, ?_⟩
        rw [configOnce.2, Json.denotes_iff.mp denotes]
        rfl
    | bareObject typeOnce idOnce noConfig =>
        rw [Json.filter_eq_singleton_iff] at typeOnce idOnce
        rw [Json.filter_eq_nil_iff] at noConfig
        refine ⟨⟨typeOnce.1, idOnce.1, noConfig.1⟩, _, _, typeOnce.2, idOnce.2, ?_⟩
        rw [noConfig.2]
        rfl
  · rintro ⟨⟨typeOnce, idOnce, configOnce⟩, typeText, idText, typeHere, idHere, rfl⟩
    have typeOnly := Json.filter_eq_singleton_iff.mpr ⟨typeOnce, typeHere⟩
    have idOnly := Json.filter_eq_singleton_iff.mpr ⟨idOnce, idHere⟩
    cases configHere : (Json.object entries).get? "config" with
    | none => exact .bareObject typeOnly idOnly (Json.filter_eq_nil_iff.mpr ⟨configOnce, configHere⟩)
    | some config =>
        have configOnly := Json.filter_eq_singleton_iff.mpr ⟨configOnce, configHere⟩
        exact .object typeOnly idOnly configOnly (Json.denotes_iff.mpr rfl)

/-- An object is read as a declaration of the resource that it declares. -/
theorem ofJson?_object (entries : List (String × Json)) (resource : Resource) :
    (ofJson? (.object entries)).map Declaration.resource = some resource ↔
      (Json.object entries).Declares resource := by
  rw [declares_object_iff]
  by_cases once : ∀ name ∈ fields, (entries.filter (·.1 = name)).length ≤ 1
  · have parts : (Json.object entries).parts? fields =
        some (fields.map fun name => (Json.object entries).get? name) := by
      rw [parts?, if_pos (by simpa using once)]
    rw [ofJson?_of_parts parts]
    exact ⟨fun values => ⟨once, values⟩, And.right⟩
  · have noParts : (Json.object entries).parts? fields = none := by
      rw [parts?, if_neg (by simpa using once)]
    simp [ofJson?, noParts, once]

/-- A list is read as a declaration of the resource that it declares. -/
theorem ofJson?_array (items : List Json) (resource : Resource) :
    (ofJson? (.array items)).map Declaration.resource = some resource ↔
      (Json.array items).Declares resource := by
  match items with
  | [] =>
      rw [ofJson?_of_parts rfl]
      constructor
      · rintro ⟨_, _, ⟨⟩, _⟩
      · rintro ⟨⟩
  | [_] =>
      rw [ofJson?_of_parts rfl]
      constructor
      · rintro ⟨_, _, _, ⟨⟩, _⟩
      · rintro ⟨⟩
  | [_, _] =>
      rw [ofJson?_of_parts rfl]
      constructor
      · rintro ⟨typeText, idText, ⟨⟩, ⟨⟩, rfl⟩
        exact .bareList typeText idText
      · rintro ⟨⟩
        exact ⟨_, _, rfl, rfl, rfl⟩
  | [_, _, config] =>
      rw [ofJson?_of_parts rfl]
      constructor
      · rintro ⟨typeText, idText, ⟨⟩, ⟨⟩, rfl⟩
        exact .list typeText idText (Json.denotes_iff.mpr rfl)
      · rintro (_ | _ | ⟨_, _, denotes⟩)
        exact ⟨_, _, rfl, rfl, congrArg _ (Json.denotes_iff.mp denotes).symm⟩
  | a :: b :: c :: d :: others =>
      have noParts : (Json.array (a :: b :: c :: d :: others)).parts? fields = none := by
        rw [parts?, if_neg (by simp [fields])]
      rw [ofJson?, noParts]
      constructor
      · rintro ⟨⟩
      · rintro ⟨⟩

/-- A record is read as a declaration of the resource that it declares, and nothing else is read. -/
theorem ofJson?_eq_some_iff {value : Json} {resource : Resource} :
    (ofJson? value).map Declaration.resource = some resource ↔ value.Declares resource := by
  cases value with
  | object entries => exact ofJson?_object entries resource
  | array items => exact ofJson?_array items resource
  | null | bool | number | string =>
      constructor
      · intro read
        contradiction
      · intro declares
        cases declares

/-! ### Lists of records -/

/-- A list of records is read item by item, as a whole or not at all. -/
theorem mapM_ofJson?_eq_some_iff {items : List Json} {resources : List Resource} :
    (items.mapM ofJson?).map (·.map Declaration.resource) = some resources ↔
      List.Forall₂ Declares items resources := by
  induction items generalizing resources with
  | nil => simp [eq_comm]
  | cons item items inductionHypothesis =>
      rw [List.mapM_cons, List.forall₂_cons_left_iff]
      simp only [← ofJson?_eq_some_iff, ← inductionHypothesis]
      cases ofJson? item <;> cases items.mapM ofJson? <;> simp [eq_comm]

/-- The list under the one key of an object counts, and the other keys do not. -/
theorem listOfJson?_object {entries : List (String × Json)} {items : List Json}
    (once : entries.filter (·.1 = "resources") = [("resources", .array items)]) :
    listOfJson? (.object entries) = listOfJson? (.array items) := by
  obtain ⟨atMostOnce, here⟩ := Json.filter_eq_singleton_iff.mp once
  have parts : (Json.object entries).parts? ["resources"] = some [some (.array items)] := by
    rw [parts?, if_pos (by simpa using atMostOnce), List.map_singleton, here]
  simp only [listOfJson?, parts, Json.list?]

end Declaration

/-! ### Documents -/

namespace Resource

/-- A text that holds one value is read as the resources that the value lists. -/
theorem readList_of_read {text : String} {value : Json}
    (holds : Json.read text.toList = .ok value) :
    readList text =
      match (Declaration.listOfJson? value).map (·.map Declaration.resource) with
      | none => .error ⟨[.parseResources], .notResources⟩
      | some resources => .ok resources := by
  unfold Json.read at holds
  rw [readList]
  cases front : Json.readFront text.toList with
  | error fault =>
      rw [front] at holds
      cases holds
  | ok pair =>
      obtain ⟨first, rest⟩ := pair
      simp only [front, bind, Except.bind, Json.complete] at holds
      split at holds
      · rename_i ended
        cases holds
        cases declared : Declaration.listOfJson? value with
        | none => simp [declared]
        | some declarations => simp [declared, Json.complete, ended]
      · cases holds

/-- A text that holds a list of records is read as the resources that they declare one by one. -/
theorem readList_array_eq_ok_iff {text : String} {items : List Json}
    (holds : Json.read text.toList = .ok (.array items)) {resources : List Resource} :
    readList text = .ok resources ↔ List.Forall₂ Json.Declares items resources := by
  rw [readList_of_read holds, ← Declaration.mapM_ofJson?_eq_some_iff, Declaration.listOfJson?]
  cases (items.mapM Declaration.ofJson?).map (·.map Declaration.resource) <;> simp

/-- A list of records that is not read holds no resources, and nothing else is wrong with it. -/
theorem readList_array_cases {text : String} {items : List Json}
    (holds : Json.read text.toList = .ok (.array items)) :
    (∃ resources, readList text = .ok resources) ∨
      readList text = .error ⟨[.parseResources], .notResources⟩ := by
  rw [readList_of_read holds]
  cases (Declaration.listOfJson? (.array items)).map (·.map Declaration.resource) with
  | none => exact .inr rfl
  | some resources => exact .inl ⟨resources, rfl⟩

theorem exists_forall₂_declares_iff {items : List Json} :
    (∃ resources, List.Forall₂ Json.Declares items resources) ↔
      ∀ item ∈ items, ∃ resource, item.Declares resource := by
  induction items with
  | nil => simp
  | cons item items inductionHypothesis =>
      simp [List.forall₂_cons_left_iff, ← inductionHypothesis]

/-- A document may list its records as it is or under the one key `resources` of an object, beside
any other keys: both texts are read alike.  They are read if every record declares a resource, as
these resources in their order; one record that declares none makes the whole document hold no
resources. -/
theorem readList_documents {bare wrapped : String} {items : List Json}
    {entries : List (String × Json)} (bareHolds : Json.read bare.toList = .ok (.array items))
    (wrappedHolds : Json.read wrapped.toList = .ok (.object entries))
    (once : entries.filter (·.1 = "resources") = [("resources", .array items)]) :
    readList wrapped = readList bare ∧
      (∀ resources, readList bare = .ok resources ↔
        List.Forall₂ Json.Declares items resources) ∧
      ((∃ resources, readList bare = .ok resources) ↔
        ∀ item ∈ items, ∃ resource, item.Declares resource) ∧
      (readList bare = .error ⟨[.parseResources], .notResources⟩ ↔
        ∃ item ∈ items, ∀ resource, ¬ item.Declares resource) := by
  have alike : readList wrapped = readList bare := by
    rw [readList_of_read wrappedHolds, readList_of_read bareHolds,
      Declaration.listOfJson?_object once]
  have readable : (∃ resources, readList bare = .ok resources) ↔
      ∀ item ∈ items, ∃ resource, item.Declares resource := by
    simp only [readList_array_eq_ok_iff bareHolds, exists_forall₂_declares_iff]
  refine ⟨alike, fun resources => readList_array_eq_ok_iff bareHolds, readable, ?_⟩
  have unreadable : (∃ item ∈ items, ∀ resource, ¬ item.Declares resource) ↔
      ¬ ∃ resources, readList bare = .ok resources := by
    rw [readable]
    simp only [not_forall, not_exists, exists_prop]
  rw [unreadable]
  constructor
  · rintro failed ⟨resources, read⟩
    rw [failed] at read
    cases read
  · intro failed
    rcases readList_array_cases bareHolds with read | notResources
    · exact absurd read failed
    · exact notResources

set_option maxRecDepth 2000 in
/-- A record of each shape, as they are and under one key of an object.  The configuration of one
of them has a block in a list, and a key that is repeated: it keeps its place and takes its last
value. -/
theorem readList_documents_ofRecords :
    let config := "\x7b\"k\":1,\"m\":[\x7b\"n\":null\x7d],\"k\":\x7b\"x\":true\x7d\x7d"
    let bare := "[[\"t\",\"a\"," ++ config ++
      "],\x7b\"resource_id\":\"b\",\"resource_type\":\"s\"\x7d]"
    let wrapped := "\x7b\"x\":[],\"resources\":" ++ bare ++ "\x7d"
    let tree : ConfigTree :=
      .mapping
        [ ("k", .mapping [("x", .scalar (.bool true))]),
          ("m", .sequence [.mapping [("n", .scalar .null)]]) ]
    let resources : List Resource := [⟨"t", "a", tree⟩, ⟨"s", "b", .scalar .null⟩]
    readList bare = .ok resources ∧ readList wrapped = .ok resources := by
  intro config bare wrapped tree resources
  let value : Json :=
    .object
      [ ("k", .number (.int 1)), ("m", .array [.object [("n", .null)]]),
        ("k", .object [("x", .bool true)]) ]
  let records : List Json :=
    [ .array [.string "t", .string "a", value],
      .object [("resource_id", .string "b"), ("resource_type", .string "s")] ]
  have bareHolds : Json.read bare.toList = .ok (.array records) := by
    cbv
  have wrappedHolds : Json.read wrapped.toList =
      .ok (.object [("x", .array []), ("resources", .array records)]) := by
    cbv
  have documents := readList_documents bareHolds wrappedHolds rfl
  have denotes : value.Denotes tree := Json.denotes_iff.mpr rfl
  have declared : List.Forall₂ Json.Declares records resources :=
    .cons (.list "t" "a" denotes) (.cons (.bareObject rfl rfl rfl) .nil)
  have read : readList bare = .ok resources := (documents.2.1 resources).mpr declared
  exact ⟨read, documents.1.trans read⟩

end Resource

end PolicyAudit
