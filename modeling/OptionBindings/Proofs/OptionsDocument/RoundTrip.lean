import OptionBindings.Proofs.Catalog.Nesting
import OptionBindings.Proofs.Catalog.Recording
import OptionBindings.Proofs.OptionsDocument.Outcome
import OptionBindings.Proofs.Xml.ReadBack

/-!
# Catalogs as documents

A catalog is written as a document with an element for each scope and an empty element for each of
its options, in the order of the table. Loading the document gives the catalog back: the order, every
character of every text, and what an option has not.
-/

namespace OptionBindings

open Xml

/-- The attributes of an option's element. There is none for what the option does not have. -/
def ClientOption.attributes (option : ClientOption) : List (String × String) :=
  ("name", option.name) :: ("code", option.code) ::
    (option.description.toList.map ("description", ·) ++
      match option.parameter with
      | none => []
      | some parameter =>
        ("paramType", parameter.type) ::
          parameter.description.toList.map ("paramDescription", ·))

def OptionTable.options (table : OptionTable) : List ClientOption :=
  table.entries.map (·.2)

namespace Catalog

def optionText (option : ClientOption) : List Char :=
  startTagText "Option" option.attributes true

def scopeText (catalog : Catalog) (scope : Scope) : List Char :=
  startTagText "Scope" [("name", scope.typeName)] false ++
    (catalog.table scope).options.flatMap optionText ++ endTagText "Scope"

def document (catalog : Catalog) : String :=
  String.ofList (startTagText "Options" [] false ++ Scope.all.flatMap catalog.scopeText ++
    endTagText "Options")

/-- A catalog that can come from a document. -/
structure IsWritable (catalog : Catalog) : Prop where
  /-- Every option stands under its own name. -/
  filed : ∀ scope, ∀ entry ∈ (catalog.table scope).entries, entry.2.name = entry.1
  complete : ∀ scope, ∀ option ∈ (catalog.table scope).options,
    option.name ≠ "" ∧ option.code ≠ ""
  legal : ∀ scope, ∀ option ∈ (catalog.table scope).options, ∀ written ∈ option.attributes,
    ∀ c ∈ written.2.toList, IsXmlChar c

/-! ## Elements -/

def optionElements : List ClientOption → Elements
  | [] => .none
  | option :: later => .cons "Option" option.attributes .none (optionElements later)

def scopeElements (catalog : Catalog) : List Scope → Elements
  | [] => .none
  | scope :: later =>
    .cons "Scope" [("name", scope.typeName)] (optionElements (catalog.table scope).options)
      (catalog.scopeElements later)

theorem names_attributes_sublist (option : ClientOption) :
    (option.attributes.map (·.1)).Sublist
      ["name", "code", "description", "paramType", "paramDescription"] := by
  obtain ⟨name, code, description, parameter⟩ := option
  cases description <;> rcases parameter with _ | ⟨type, _ | text⟩ <;>
    simp [ClientOption.attributes]

theorem isTag_option {option : ClientOption}
    (h : ∀ written ∈ option.attributes, ∀ c ∈ written.2.toList, IsXmlChar c) :
    IsTag "Option" option.attributes := by
  have hsublist := names_attributes_sublist option
  refine ⟨by decide, fun written hwritten => ?_, hsublist.nodup (by decide), h⟩
  have hname := hsublist.subset (List.mem_map_of_mem hwritten)
  have hall : ∀ name ∈ ["name", "code", "description", "paramType", "paramDescription"],
      isXmlName .utf8 name := by
    decide
  exact hall _ hname

theorem isTag_scope (scope : Scope) : IsTag "Scope" [("name", scope.typeName)] := by
  refine ⟨by decide, ?_, by simp, ?_⟩
  · exact List.forall_mem_singleton.2 (by decide : isXmlName .utf8 "name")
  · exact List.forall_mem_singleton.2 (by cases scope <;> decide)

theorem isTag_root : IsTag "Options" [] :=
  ⟨by decide, by simp, by simp, by simp⟩

theorem writes_optionElements {options : List ClientOption}
    (h : ∀ option ∈ options, ∀ written ∈ option.attributes, ∀ c ∈ written.2.toList, IsXmlChar c) :
    Writes (optionElements options) (options.flatMap optionText) := by
  induction options with
  | nil => exact .none
  | cons option options ih =>
      rw [List.flatMap_cons, optionElements]
      exact .empty (isTag_option (h option List.mem_cons_self))
        (ih fun other hother => h other (List.mem_cons_of_mem _ hother))

theorem writes_scopeElements {catalog : Catalog} (h : catalog.IsWritable) (scopes : List Scope) :
    Writes (catalog.scopeElements scopes) (scopes.flatMap catalog.scopeText) := by
  induction scopes with
  | nil => exact .none
  | cons scope scopes ih =>
      rw [List.flatMap_cons, scopeElements]
      exact .around (isTag_scope scope) (writes_optionElements (h.legal scope)) ih

theorem writes_document {catalog : Catalog} (h : catalog.IsWritable) :
    Writes (.cons "Options" [] (catalog.scopeElements Scope.all) .none) catalog.document.toList := by
  rw [document, String.toList_ofList, ← List.append_nil (_ ++ _ ++ _)]
  exact .around isTag_root (writes_scopeElements h _) .none

example : document { database := .ofList [("a", ⟨"a", "1", some "<\n", none⟩)] } =
    "<Options><Scope name=\"NetworkOption\"></Scope><Scope name=\"DatabaseOption\">" ++
      "<Option name=\"a\" code=\"1\" description=\"&lt;&#10;\"/></Scope>" ++
      "<Scope name=\"TransactionOption\"></Scope></Options>" := by
  decide +kernel

/-! ## What the document declares -/

theorem ofAttributes?_attributes (option : ClientOption) :
    ∃ tag, OptionTag.ofAttributes? option.attributes = some tag ∧ tag.toOption = option := by
  obtain ⟨name, code, description, parameter⟩ := option
  cases description <;> rcases parameter with _ | ⟨type, _ | text⟩ <;> exact ⟨_, rfl, rfl⟩

theorem declaredBy_attributes (scope : Scope) {option : ClientOption}
    (h : option.name ≠ "" ∧ option.code ≠ "") :
    Elements.declaredBy (some scope) "Option" option.attributes = some (scope, option) := by
  obtain ⟨tag, htag, rfl⟩ := ofAttributes?_attributes option
  have hcomplete : tag.isComplete := by
    simpa [OptionTag.isComplete, OptionTag.toOption] using h
  rw [Elements.declaredBy, if_pos rfl, htag]
  simp [hcomplete]

theorem declared_optionElements (scope : Scope) {options : List ClientOption}
    (h : ∀ option ∈ options, option.name ≠ "" ∧ option.code ≠ "") :
    (optionElements options).declared (some scope) = options.map (scope, ·) := by
  induction options with
  | nil => rfl
  | cons option options ih =>
      rw [optionElements, Elements.declared, declaredBy_attributes scope (h _ List.mem_cons_self),
        ih fun other hother => h other (List.mem_cons_of_mem _ hother)]
      rfl

theorem declared_scopeElements {catalog : Catalog} (h : catalog.IsWritable) (scopes : List Scope) :
    (catalog.scopeElements scopes).declared none =
      scopes.flatMap fun scope => (catalog.table scope).options.map (scope, ·) := by
  induction scopes with
  | nil => rfl
  | cons scope scopes ih =>
      have hscope : Elements.within none "Scope" [("name", scope.typeName)] = some scope :=
        Scope.ofMarker?_eq_some_iff.2 rfl
      rw [scopeElements, Elements.declared, hscope, declared_optionElements scope (h.complete scope),
        ih]
      rfl

theorem keepsApart_optionElements (enclosing : Option Scope) (options : List ClientOption) :
    (optionElements options).KeepsApart enclosing := by
  induction options with
  | nil => trivial
  | cons option options ih => exact ⟨by simp, trivial, ih⟩

theorem keepsApart_scopeElements (catalog : Catalog) (scopes : List Scope) :
    (catalog.scopeElements scopes).KeepsApart none := by
  induction scopes with
  | nil => trivial
  | cons scope scopes ih => exact ⟨fun _ => rfl, keepsApart_optionElements _ _, ih⟩

/-! ## The catalog again -/

theorem table_insertAll (catalog : Catalog) (scope other : Scope) (options : List ClientOption) :
    (catalog.insertAll (options.map (scope, ·))).table other =
      if other = scope then (catalog.table scope).insertAll options else catalog.table other := by
  induction options generalizing catalog with
  | nil =>
      by_cases h : other = scope
      · rw [if_pos h, h]
        rfl
      · rw [if_neg h]
        rfl
  | cons option options ih =>
      have hfirst : catalog.insertAll ((option :: options).map (scope, ·)) =
          (catalog.insert scope option).insertAll (options.map (scope, ·)) :=
        rfl
      rw [hfirst, ih, table_insert, table_insert, if_pos rfl]
      by_cases h : other = scope
      · rw [if_pos h, if_pos h]
        rfl
      · rw [if_neg h, if_neg h, if_neg h]

end Catalog

namespace OptionTable

theorem put_of_notMem {key : String} {entries : List (String × ClientOption)}
    (h : key ∉ entries.map (·.1)) (option : ClientOption) :
    put key option entries = entries ++ [(key, option)] := by
  induction entries with
  | nil => rfl
  | cons entry entries ih =>
      rw [List.map_cons, List.mem_cons, not_or] at h
      rw [put, if_neg (Ne.symm h.1), ih h.2, List.cons_append]

theorem entries_insertAll {table : OptionTable} {options : List ClientOption}
    (h : (table.keys ++ options.map (·.name)).Nodup) :
    (table.insertAll options).entries =
      table.entries ++ options.map fun option => (option.name, option) := by
  induction options generalizing table with
  | nil => exact (List.append_nil _).symm
  | cons option options ih =>
      rw [List.map_cons] at h
      have hnew : option.name ∉ table.keys := fun hmem =>
        (List.nodup_append.1 h).2.2 _ hmem _ List.mem_cons_self rfl
      have hentries : (table.insert option.name option).entries =
          table.entries ++ [(option.name, option)] :=
        put_of_notMem hnew option
      have hkeys : (table.insert option.name option).keys = table.keys ++ [option.name] := by
        rw [keys_insert, if_neg hnew]
      have hnodup : ((table.insert option.name option).keys ++ options.map (·.name)).Nodup := by
        rw [hkeys, List.append_assoc]
        exact h
      have hlater := ih hnodup
      rw [hentries, List.append_assoc] at hlater
      exact hlater

theorem insertAll_options {table : OptionTable}
    (h : ∀ entry ∈ table.entries, entry.2.name = entry.1) :
    empty.insertAll table.options = table := by
  have hnames : table.options.map (·.name) = table.keys := by
    rw [options, List.map_map]
    exact List.map_congr_left h
  have hpairs : table.options.map (fun option => (option.name, option)) = table.entries := by
    have hpair : ∀ entry ∈ table.entries, (entry.2.name, entry.2) = entry :=
      fun entry hentry => Prod.ext (h entry hentry) rfl
    rw [options, List.map_map]
    exact (List.map_congr_left hpair).trans (List.map_id _)
  have hnodup : (empty.keys ++ table.options.map (·.name)).Nodup := by
    rw [hnames]
    exact table.nodup
  refine ext_entries ?_
  rw [entries_insertAll hnodup, hpairs]
  rfl

end OptionTable

namespace Catalog

theorem insertAll_all {catalog : Catalog} (h : catalog.IsWritable) :
    insertAll {} (Scope.all.flatMap fun scope => (catalog.table scope).options.map (scope, ·)) =
      catalog := by
  have htables : ∀ scope, OptionTable.empty.insertAll (catalog.table scope).options =
      catalog.table scope := fun scope => OptionTable.insertAll_options (h.filed scope)
  refine ext_table fun scope => ?_
  simp only [Scope.all, List.flatMap_cons, List.flatMap_nil, List.append_nil, insertAll_append,
    table_insertAll]
  cases scope <;> exact htables _

/-- Loading undoes writing. -/
theorem outcome_loadBytes_document {catalog : Catalog} (h : catalog.IsWritable) :
    (loadBytes catalog.document.toUTF8.data.toList).outcome = .ok catalog := by
  have hread := Document.read_of_writes (writes_document h)
  rw [String.ofList_toList] at hread
  have hkeeps : (Elements.cons "Options" [] (catalog.scopeElements Scope.all) .none).KeepsApart
      none :=
    ⟨by simp, keepsApart_scopeElements _ _, trivial⟩
  have hheard := Recorder.hearAll_of_keepsApart hkeeps {}
  have hdeclared : (Elements.cons "Options" [] (catalog.scopeElements Scope.all) .none).declared
      none = Scope.all.flatMap fun scope => (catalog.table scope).options.map (scope, ·) := by
    rw [← declared_scopeElements h]
    exact List.append_nil _
  rw [hdeclared, insertAll_all h] at hheard
  rw [outcome_loadBytes, hread]
  exact congrArg (fun recorder => Except.ok recorder.catalog) hheard

/-- Texts with markup, white space and characters of every length, and texts that are empty or not
there. -/
def intricateCatalog : Catalog where
  network := .ofList
    [("b", { name := "b", code := "1", description := some "a < b & \"c\"\t\r\n ]]> &#9;" }),
      ("a", { name := "a", code := "\n", parameter := some ⟨"", none⟩ })]
  transaction := .ofList
    [("é—😀",
      { name := "é—😀", code := " 2 ", description := some "", parameter := some ⟨"Int", some ""⟩ })]

theorem outcome_loadBytes_intricateCatalog :
    intricateCatalog.IsWritable ∧
      (loadBytes intricateCatalog.document.toUTF8.data.toList).outcome = .ok intricateCatalog := by
  have hwritable : intricateCatalog.IsWritable := by
    refine ⟨?_, ?_, ?_⟩
    all_goals
      intro scope
      cases scope <;> decide +kernel
  exact ⟨hwritable, outcome_loadBytes_document hwritable⟩

end Catalog

end OptionBindings
