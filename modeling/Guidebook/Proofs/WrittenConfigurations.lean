import Guidebook.Config.Markup.Json
import Guidebook.Proofs.JsonText

/-!
# Configurations that are written and read

The written form of a configuration leaves out what a reader takes for granted, and puts the
settings of a backend beside its name and its type.  A reader finds every field under its name,
so the order of the fields is of no account: the configuration is read back from its written
form, and from the text of that, which gives the fields back in another order.
-/

namespace Guidebook

/-! ## Fields under their names -/

theorem Keyed.distinct_ofList {α : Type} (values : List (String × α)) :
    ((ofList values).map (·.1)).Nodup := by
  apply (sorted_ofList values).imp
  intro left right before same
  rw [same] at before
  exact String.lt_irrefl right before

namespace Config

/-- The fields with a name, where there is one at most. -/
theorem filter_eq_of_distinct {α : Type} {fields : List (String × α)}
    (distinct : (fields.map (·.1)).Nodup) (name : String) :
    fields.filter (·.1 == name) = ((fields.lookup name).map fun value => (name, value)).toList := by
  induction fields with
  | nil => rfl
  | cons field rest ih =>
      obtain ⟨key, value⟩ := field
      obtain ⟨new, later⟩ := List.nodup_cons.mp distinct
      rw [Keyed.lookup_cons, List.filter_cons, ih later]
      by_cases same : name = key
      · subst same
        have absent : rest.lookup name = none := by
          rw [← Option.not_isSome_iff_eq_none, Keyed.lookup_isSome_iff_mem]
          exact new
        simp [absent]
      · simp [same, Ne.symm same]

theorem namedField_of_distinct {fields : List (String × Json)}
    (distinct : (fields.map (·.1)).Nodup) (name : String) :
    namedField name fields = pure (fields.lookup name) := by
  rw [namedField, filter_eq_of_distinct distinct]
  cases fields.lookup name <;> rfl

theorem onlyField?_of_distinct {fields : List (String × Loose)}
    (distinct : (fields.map (·.1)).Nodup) (name : String) :
    onlyField? name fields = some (fields.lookup name) := by
  rw [onlyField?, filter_eq_of_distinct distinct]
  cases fields.lookup name <;> rfl

/-- Fields with distinct names, among which the same is found under every name as among the
given ones. -/
structure Offers (given fields : List (String × Json)) : Prop where
  distinct : (fields.map (·.1)).Nodup
  found : ∀ name, fields.lookup name = given.lookup name

variable {given fields : List (String × Json)}

theorem Offers.self (distinct : (given.map (·.1)).Nodup) : Offers given given where
  distinct := distinct
  found _ := rfl

theorem Offers.ofList (distinct : (given.map (·.1)).Nodup) : Offers given (Keyed.ofList given) where
  distinct := Keyed.distinct_ofList given
  found := Keyed.lookup_ofList distinct

theorem Offers.knownFields_eq (offers : Offers given fields) (names : List String) :
    knownFields names (Json.obj fields) = pure (names.map fun name => given.lookup name) := by
  change names.mapM (fun name => namedField name fields) = _
  simp only [namedField_of_distinct offers.distinct, offers.found]
  exact List.mapM_pure

/-- Items that are read back one by one are read back together. -/
theorem mapM_map_eq_pure {ν α : Type} {read : ν → Reading α} {write : α → ν} {items : List α}
    (back : ∀ item ∈ items, read (write item) = pure item) :
    (items.map write).mapM read = pure items := by
  induction items with
  | nil => rfl
  | cons item rest ih =>
      have first := List.forall_mem_cons.mp back
      rw [List.map_cons, List.mapM_cons, first.1, ih first.2, pure_bind, pure_bind]

theorem orDefault_some {ν α : Type} (default : α) (read : ν → Reading α) (value : ν) :
    orDefault default read (some value) = read value :=
  rfl

theorem text_str (value : String) : Markup.text (Json.str value) = pure value := rfl

theorem texts_strings (values : List String) : texts (Json.strings values) = pure values :=
  mapM_map_eq_pure fun _ _ => rfl

end Config

/-! ## Types -/

namespace TypeConfig

/-- The fields of the written form of a type. -/
def fields (type : TypeConfig) : List (String × Json) :=
  [("name", .str type.name)] ++
  (if type.description.isEmpty then [] else [("description", .str type.description)]) ++
  [("requiredFields", Json.strings type.requiredFields)] ++
  (type.extensionHint.map fun hint => ("fileExtensionHint", Json.str hint)).toList

theorem fields_distinct (type : TypeConfig) : (type.fields.map (·.1)).Nodup := by
  rw [fields]
  cases type.extensionHint <;> split <;> simp

theorem lookup_fields (type : TypeConfig) :
    ["name", "description", "requiredFields", "fileExtensionHint"].map
        (fun name => type.fields.lookup name) =
      [some (.str type.name),
        if type.description.isEmpty then none else some (.str type.description),
        some (Json.strings type.requiredFields), type.extensionHint.map Json.str] := by
  rw [fields]
  cases type.extensionHint <;> split <;> simp [List.lookup_cons]

theorem description_eq (description : String) :
    Config.orDefault "" Markup.text
        (if description.isEmpty then none else some (Json.str description)) = pure description := by
  by_cases empty : description.isEmpty
  · rw [if_pos empty, String.isEmpty_iff.mp empty]
    rfl
  · rw [if_neg empty]
    rfl

theorem extensionHint_eq (hint : Option String) :
    Config.orDefault none Config.optionalText (hint.map Json.str) = pure hint := by
  cases hint <;> rfl

theorem readType_eq {type : TypeConfig} {others : List (String × Json)}
    (offers : Config.Offers type.fields others) :
    Config.readType (Json.obj others) = pure type := by
  rw [Config.readType, offers.knownFields_eq, lookup_fields, pure_bind]
  simp only [description_eq, extensionHint_eq, Config.orDefault_some, Config.text_str,
    Config.texts_strings, pure_bind]

end TypeConfig

/-! ## Backends -/

namespace BackendConfig

/-- The fields of the written form of a backend. -/
def fields (backend : BackendConfig) : List (String × Json) :=
  [("name", .str backend.name), ("type", .str typeName), ("rootDir", .str backend.rootDirectory),
    ("requireExplicitId", .bool backend.requireExplicitId),
    ("entityLocations", .obj (backend.locations.map fun location => (location.1, .str location.2)))]

theorem fields_distinct (backend : BackendConfig) : (backend.fields.map (·.1)).Nodup := by
  simp [fields]

/-- The settings of a backend: its fields but for the name, read without their types. -/
def settingsOf (fields : List (String × Json)) : List (String × Loose) :=
  (fields.filter (·.1 != "name")).map fun field => (field.1, field.2.toLoose)

theorem settingsOf_distinct {fields : List (String × Json)}
    (distinct : (fields.map (·.1)).Nodup) : ((settingsOf fields).map (·.1)).Nodup := by
  rw [settingsOf, List.map_map]
  exact distinct.sublist (List.filter_sublist.map _)

theorem lookup_settingsOf (fields : List (String × Json)) {name : String} (other : name ≠ "name") :
    (settingsOf fields).lookup name = (fields.lookup name).map Json.toLoose := by
  induction fields with
  | nil => rfl
  | cons field rest ih =>
      obtain ⟨key, value⟩ := field
      rw [settingsOf] at ih
      rw [settingsOf, List.filter_cons, Keyed.lookup_cons]
      by_cases named : key = "name"
      · have passed : name ≠ key := named ▸ other
        simp [named, other, ih]
      · by_cases same : name = key <;> simp [named, same, Keyed.lookup_cons, ih]

theorem texts?_locations (locations : List (String × String)) :
    (Json.obj (locations.map fun location => (location.1, .str location.2))).toLoose.texts? =
      some locations := by
  rw [Json.toLoose, Loose.texts?]
  induction locations with
  | nil => rfl
  | cons location rest ih =>
      rw [List.map_cons, Json.toLooseFields, List.mapM_cons, ih]
      rfl

/-- The globs stand in ascending order of the types' names. -/
def IsSorted (backend : BackendConfig) : Prop :=
  (backend.locations.map (·.1)).Pairwise (· < ·)

instance (backend : BackendConfig) : Decidable backend.IsSorted :=
  inferInstanceAs (Decidable (List.Pairwise _ _))

theorem backendOf?_eq {backend : BackendConfig} {others : List (String × Json)}
    (offers : Config.Offers backend.fields others) (sorted : backend.IsSorted) :
    Config.backendOf? backend.name (settingsOf others) = some backend := by
  have field (name : String) (other : name ≠ "name") :
      Config.onlyField? name (settingsOf others) =
        some ((backend.fields.lookup name).map Json.toLoose) := by
    rw [Config.onlyField?_of_distinct (settingsOf_distinct offers.distinct),
      lookup_settingsOf others other, offers.found]
  have type : backend.fields.lookup "type" = some (.str typeName) := rfl
  have root : backend.fields.lookup "rootDir" = some (.str backend.rootDirectory) := rfl
  have explicitId : backend.fields.lookup "requireExplicitId" =
      some (.bool backend.requireExplicitId) := rfl
  have locations : backend.fields.lookup "entityLocations" =
      some (.obj (backend.locations.map fun location => (location.1, .str location.2))) := rfl
  rw [Config.backendOf?, field "type" (by decide), field "rootDir" (by decide),
    field "requireExplicitId" (by decide), field "entityLocations" (by decide), type, root,
    explicitId, locations]
  simp only [Option.bind_eq_bind, Option.bind_some, Option.map_some, Option.getD_some,
    texts?_locations, Keyed.ofList_of_sorted sorted]
  rfl

/-- A backend is read back from its fields. -/
theorem readBackend_eq {backend : BackendConfig} {others : List (String × Json)}
    (offers : Config.Offers backend.fields others) (sorted : backend.IsSorted) :
    Config.readBackend (Json.obj others) = pure backend := by
  have named : Markup.fields 0 (Json.obj others) = pure (.named others) := rfl
  have name : backend.fields.lookup "name" = some (.str backend.name) := rfl
  have settings {step : String × Json → Reading (String × Loose)}
      (each : ∀ field, step field = pure (field.1, field.2.toLoose)) :
      (others.filter (·.1 != "name")).mapM step = pure (settingsOf others) := by
    rw [funext each]
    exact List.mapM_pure
  rw [Config.readBackend, named, pure_bind]
  simp only [Config.namedField_of_distinct offers.distinct, offers.found, name, pure_bind,
    Config.orDefault_some, Config.text_str]
  rw [settings, pure_bind, backendOf?_eq offers sorted]
  · rfl
  · exact fun _ => rfl

end BackendConfig

/-! ## Configurations -/

namespace Config

/-- An order of fields in which every field keeps its value. -/
def Arranges (arrange : List (String × Json) → List (String × Json)) : Prop :=
  ∀ given, (given.map (·.1)).Nodup → Offers given (arrange given)

theorem arranges_id : Arranges id := fun _ => Offers.self

theorem arranges_ofList : Arranges Keyed.ofList := fun _ => Offers.ofList

/-- The fields of the written form of a configuration, with the fields of its types and
backends in some order. -/
def fields (config : Config) (arrange : List (String × Json) → List (String × Json)) :
    List (String × Json) :=
  [("general", .obj [("log_level", .str config.logLevel)]),
    ("performance", .obj [("parse_workers", .int (Int.ofNat config.parseWorkers))]),
    ("entityTypes", .arr (config.types.map fun type => .obj (arrange type.fields))),
    ("backends", .arr (config.backends.map fun backend => .obj (arrange backend.fields)))]

theorem fields_distinct (config : Config)
    (arrange : List (String × Json) → List (String × Json)) :
    ((config.fields arrange).map (·.1)).Nodup := by
  simp [fields]

theorem lookup_fields (config : Config)
    (arrange : List (String × Json) → List (String × Json)) :
    ["general", "performance", "entityTypes", "backends"].map
        (fun name => (config.fields arrange).lookup name) =
      [some (.obj [("log_level", .str config.logLevel)]),
        some (.obj [("parse_workers", .int (Int.ofNat config.parseWorkers))]),
        some (.arr (config.types.map fun type => .obj (arrange type.fields))),
        some (.arr (config.backends.map fun backend => .obj (arrange backend.fields)))] :=
  rfl

theorem items_arr (items : List Json) : Markup.items (Json.arr items) = pure items := rfl

theorem readGeneral_eq (level : String) :
    readGeneral (Json.obj [("log_level", .str level)]) = pure level := rfl

theorem readPerformance_eq (workers : Nat) :
    readPerformance (Json.obj [("parse_workers", .int (Int.ofNat workers))]) = pure workers := by
  have number : Markup.number (Json.int (Int.ofNat workers)) = pure workers :=
    if_pos (Int.natCast_nonneg workers)
  have alone : (([("parse_workers", .int (Int.ofNat workers))] : List (String × Json)).map
      (·.1)).Nodup := by simp
  rw [readPerformance, (Offers.self alone).knownFields_eq, pure_bind]
  exact number

/-- The globs of every backend stand in ascending order of the types' names. -/
def IsSorted (config : Config) : Prop := ∀ backend ∈ config.backends, backend.IsSorted

instance (config : Config) : Decidable config.IsSorted :=
  List.decidableBAll _ config.backends

/-- A configuration is read back from its fields, in whatever order they are. -/
theorem ofJson?_arranged {config : Config} (sorted : config.IsSorted)
    {arrange : List (String × Json) → List (String × Json)} (arranges : Arranges arrange) :
    ofJson? (.obj (arrange (config.fields arrange))) = some { config with source := none } := by
  have types : (config.types.map fun type => Json.obj (arrange type.fields)).mapM readType =
      pure config.types :=
    mapM_map_eq_pure fun type _ => TypeConfig.readType_eq (arranges _ type.fields_distinct)
  have backends : (config.backends.map fun backend => Json.obj (arrange backend.fields)).mapM
      readBackend = pure config.backends :=
    mapM_map_eq_pure fun backend held =>
      BackendConfig.readBackend_eq (arranges _ backend.fields_distinct) (sorted backend held)
  have offers := arranges _ (config.fields_distinct arrange)
  rw [ofJson?, ofMarkup?, read, offers.knownFields_eq, lookup_fields, pure_bind]
  simp only [orDefault_some, readGeneral_eq, readPerformance_eq, items_arr, types, backends,
    pure_bind]
  rfl

theorem toJson_eq (config : Config) : config.toJson = .obj (config.fields id) := rfl

/-! ## The text of a configuration -/

/-- Fields whose values are read back from their text, and have one level at most. -/
def AreFlat (fields : List (String × Json)) : Prop :=
  ∀ field ∈ fields, field.2.Plain ∧ field.2.depth ≤ 1

theorem areFlat_typeFields (type : TypeConfig) : AreFlat type.fields := by
  intro field member
  have cases : (∃ text, field.2 = .str text) ∨ field.2 = Json.strings type.requiredFields := by
    revert field
    rw [TypeConfig.fields]
    cases type.extensionHint <;> split <;> simp
  rcases cases with ⟨text, same⟩ | same <;> rw [same]
  · exact ⟨.str, Nat.zero_le 1⟩
  · exact ⟨Json.plain_strings _, Json.depth_strings_le _⟩

theorem areFlat_backendFields {backend : BackendConfig} (sorted : backend.IsSorted) :
    AreFlat backend.fields := by
  have locations : (Json.obj (backend.locations.map fun location =>
      (location.1, .str location.2))).Plain ∧
      (Json.obj (backend.locations.map fun location =>
        (location.1, .str location.2))).depth ≤ 1 := by
    constructor
    · apply Json.Plain.obj
      · rwa [List.map_map]
      · rw [List.forall_mem_map]
        exact fun _ _ => .str
    · apply Nat.succ_le_succ
      rw [Json.depthOfFields_le_iff, List.forall_mem_map]
      exact fun _ _ => Nat.le_refl 0
  have text (value : String) : (Json.str value).Plain ∧ (Json.str value).depth ≤ 1 :=
    ⟨.str, Nat.zero_le 1⟩
  have truth (value : Bool) : (Json.bool value).Plain ∧ (Json.bool value).depth ≤ 1 :=
    ⟨.bool, Nat.zero_le 1⟩
  simp [AreFlat, BackendConfig.fields, text, truth, locations]

theorem holdsEither_ofNat {number : Nat} (bounded : Word.holds 64 number = true) :
    Word.holdsEither 64 (Int.ofNat number) = true := by
  have low : -Int.ofNat (Word.count 63) ≤ Int.ofNat number := by simp [Word.count]
  have high : Int.ofNat number < Int.ofNat (Word.count 64) :=
    Int.ofNat_lt.mpr (of_decide_eq_true bounded)
  rw [Word.holdsEither, decide_eq_true low, decide_eq_true high]
  rfl

section Records

variable {α : Type} {records : List α} {fields : α → List (String × Json)}

theorem exact_records (flat : ∀ record ∈ records, AreFlat (fields record)) :
    (Json.arr (records.map fun record => .obj (fields record))).Exact := by
  apply Json.Exact.arr
  rw [List.forall_mem_map]
  exact fun record held => .obj fun field member => (flat record held field member).1.exact

theorem depth_records_le (flat : ∀ record ∈ records, AreFlat (fields record)) :
    (Json.arr (records.map fun record => .obj (fields record))).depth ≤ 3 := by
  apply Nat.succ_le_succ
  rw [Json.depthOfItems_le_iff, List.forall_mem_map]
  intro record held
  apply Nat.succ_le_succ
  rw [Json.depthOfFields_le_iff]
  exact fun field member => (flat record held field member).2

theorem inOrder_records (flat : ∀ record ∈ records, AreFlat (fields record)) :
    (Json.arr (records.map fun record => .obj (fields record))).inOrder =
      .arr (records.map fun record => .obj (Keyed.ofList (fields record))) := by
  rw [Json.inOrder, Json.inOrderItems_eq_map, List.map_map]
  congr 1
  apply List.map_congr_left
  intro record held
  exact Json.inOrder_obj fun field member => (flat record held field member).1.inOrder_eq

end Records

theorem exact_toJson {config : Config} (sorted : config.IsSorted)
    (bounded : Word.holds 64 config.parseWorkers = true) : config.toJson.Exact := by
  have general : (Json.obj [("log_level", .str config.logLevel)]).Exact :=
    .obj (List.forall_mem_singleton.mpr .str)
  have performance : (Json.obj [("parse_workers", .int (Int.ofNat config.parseWorkers))]).Exact :=
    .obj (List.forall_mem_singleton.mpr (.int (holdsEither_ofNat bounded)))
  rw [toJson_eq, fields]
  apply Json.Exact.obj
  simp only [List.forall_mem_cons]
  exact ⟨general, performance, exact_records fun type _ => areFlat_typeFields type,
    exact_records fun backend held => areFlat_backendFields (sorted backend held),
    List.forall_mem_nil _⟩

theorem depth_toJson_le {config : Config} (sorted : config.IsSorted) : config.toJson.depth ≤ 4 := by
  have general : (Json.obj [("log_level", .str config.logLevel)]).depth ≤ 3 :=
    Nat.le_of_ble_eq_true rfl
  have performance :
      (Json.obj [("parse_workers", .int (Int.ofNat config.parseWorkers))]).depth ≤ 3 :=
    Nat.le_of_ble_eq_true rfl
  rw [toJson_eq, fields]
  apply Nat.succ_le_succ
  rw [Json.depthOfFields_le_iff]
  simp only [List.forall_mem_cons]
  exact ⟨general, performance, depth_records_le fun type _ => areFlat_typeFields type,
    depth_records_le fun backend held => areFlat_backendFields (sorted backend held),
    List.forall_mem_nil _⟩

theorem inOrder_toJson {config : Config} (sorted : config.IsSorted) :
    config.toJson.inOrder = .obj (Keyed.ofList (config.fields Keyed.ofList)) := by
  have types := inOrder_records fun type (_ : type ∈ config.types) => areFlat_typeFields type
  have backends := inOrder_records fun backend held => areFlat_backendFields (sorted backend held)
  rw [toJson_eq, Json.inOrder, Json.inOrderFields_eq_map, fields, fields]
  simp only [List.map_cons, List.map_nil, id_eq, types, backends]
  rfl

/-! ## Configurations that were read -/

/-- What is read, if anything is, has a property. -/
structure Yields {α : Type} (reading : Reading α) (holds : α → Prop) : Prop where
  held : ∀ count result, reading count = some result → holds result.1

namespace Yields

variable {α β : Type} {reading : Reading α} {next : α → Reading β} {holds : α → Prop}
  {holdsNext : β → Prop}

theorem pure {value : α} (held : holds value) : Yields (pure value) holds where
  held count result read := by
    cases read
    exact held

theorem failure : Yields (failure : Reading α) holds where
  held count result read := by cases read

theorem any : Yields reading fun _ => True where
  held _ _ _ := trivial

theorem bind (first : Yields reading holds)
    (second : ∀ value, holds value → Yields (next value) holdsNext) :
    Yields (reading >>= next) holdsNext where
  held count result read := by
    obtain ⟨middle, before, after⟩ := Option.bind_eq_some_iff.mp read
    exact (second middle.1 (first.held count middle before)).held middle.2 result after

/-- What was read first does not matter. -/
theorem after (second : ∀ value, Yields (next value) holdsNext) :
    Yields (reading >>= next) holdsNext :=
  any.bind fun value _ => second value

theorem lift {attempt : Option α} (held : ∀ value, attempt = some value → holds value) :
    Yields (liftM attempt) holds where
  held count result read := by
    cases made : attempt with
    | none =>
        rw [made] at read
        cases read
    | some value =>
        rw [made] at read
        cases read
        exact held value made

theorem mapM {read : α → Reading β} (each : ∀ item, Yields (read item) holdsNext)
    (items : List α) :
    Yields (items.mapM read) fun results => ∀ result ∈ results, holdsNext result := by
  induction items with
  | nil => exact pure (List.forall_mem_nil _)
  | cons item rest ih =>
      rw [List.mapM_cons]
      apply (each item).bind
      intro result first
      apply ih.bind
      intro results others
      exact pure (List.forall_mem_cons.mpr ⟨first, others⟩)

theorem orDefault {default : β} {read : α → Reading β} (held : holdsNext default)
    (each : ∀ value, Yields (read value) holdsNext) (value : Option α) :
    Yields (orDefault default read value) holdsNext := by
  cases value with
  | none => exact pure held
  | some value => exact each value

end Yields

theorem isSorted_of_backendOf? {name : String} {settings : List (String × Loose)}
    {backend : BackendConfig} (made : backendOf? name settings = some backend) :
    backend.IsSorted := by
  simp only [backendOf?, Option.bind_eq_bind, Option.pure_def, Option.bind_eq_some_iff] at made
  obtain ⟨_, -, _, -, _, -, _, -, _, -, _, -, _, -, _, -, same⟩ := made
  cases same
  exact Keyed.sorted_ofList _

variable {ν : Type} [Markup ν]

theorem yields_readBackend (value : ν) : Yields (readBackend value) BackendConfig.IsSorted := by
  apply Yields.after
  intro fields
  cases fields with
  | placed values => exact .failure
  | named fields =>
      apply Yields.after
      intro name
      apply Yields.after
      intro text
      apply Yields.after
      intro settings
      exact .lift fun backend => isSorted_of_backendOf?

theorem yields_read (value : ν) : Yields (read value) IsSorted := by
  have each (value : ν) : Yields (do (← Markup.items value).mapM readBackend)
      fun backends => ∀ backend ∈ backends, backend.IsSorted :=
    .after (Yields.mapM yields_readBackend)
  have none : ∀ backend ∈ ([] : List BackendConfig), backend.IsSorted := List.forall_mem_nil _
  apply Yields.after
  intro fields
  split
  · apply Yields.after
    intro level
    apply Yields.after
    intro workers
    apply Yields.after
    intro types
    apply (Yields.orDefault none each _).bind
    intro backends sorted
    exact .pure sorted
  · exact .failure

/-- The globs of every backend that was read are in order. -/
theorem isSorted_of_ofMarkup? {value : ν} {config : Config}
    (found : ofMarkup? value = some config) : config.IsSorted := by
  obtain ⟨result, read, same⟩ := Option.map_eq_some_iff.mp found
  cases same
  exact (yields_read value).held 0 result read

/-! ## Reading back -/

/-- Reading undoes writing.  A configuration is read back from its written form, with the fields
in the order of that or in their own, but for its file, on which its check does not depend; and
from either text of it within four levels, as long as a word of 64 bits holds its number of
parsers.  Every configuration that was read has its globs in order. -/
theorem reading_undoes_writing :
    (∀ config : Config, config.IsSorted →
      ofJson? config.toJson = some { config with source := none } ∧
      ofJson? config.toJson.inOrder = some { config with source := none } ∧
      { config with source := none }.validate = config.validate ∧
      (Word.holds 64 config.parseWorkers = true → ∀ limit, 4 ≤ limit →
        ∀ text ∈ [config.toJson.compact, config.toJson.pretty],
          (Json.parseWithin? limit text).bind ofJson? = some { config with source := none })) ∧
    ∀ (ν : Type) [Markup ν] (value : ν) (config : Config),
      ofMarkup? value = some config → config.IsSorted := by
  constructor
  · intro config sorted
    have written : ofJson? config.toJson = some { config with source := none } := by
      rw [toJson_eq]
      exact ofJson?_arranged sorted arranges_id
    have inOrder : ofJson? config.toJson.inOrder = some { config with source := none } := by
      rw [inOrder_toJson sorted]
      exact ofJson?_arranged sorted arranges_ofList
    refine ⟨written, inOrder, rfl, ?_⟩
    intro bounded limit within text form
    have shallow : config.toJson.depth ≤ limit := Nat.le_trans (depth_toJson_le sorted) within
    rw [(exact_toJson sorted bounded).parseWithin? shallow form, Option.bind_some, inOrder]
  · intro ν _ value config
    exact isSorted_of_ofMarkup?

/-- Two types and two backends, one of each with nothing but what it must have. -/
def twoOfEach : Config where
  logLevel := "debug"
  parseWorkers := 4
  types := [
    { name := "behavior"
      description := "What \"we\" do."
      requiredFields := ["id", "description"]
      extensionHint := some "bhv" },
    { name := "recipe" }]
  backends := [
    { name := "team"
      rootDirectory := "~/team"
      requireExplicitId := false
      locations := [("behavior", "**/*.bhv"), ("recipe", "*.rcp")] },
    { locations := [("recipe", "recipes/*.rcp")] }]
  source := some ⟨"/config.toml"⟩

theorem reading_undoes_writing_twoOfEach :
    twoOfEach.IsSorted ∧ Word.holds 64 twoOfEach.parseWorkers = true ∧
    ofJson? twoOfEach.toJson = some { twoOfEach with source := none } ∧
    (Json.parse? twoOfEach.toJson.pretty).bind ofJson? = some { twoOfEach with source := none } ∧
    { twoOfEach with source := none }.validate = .ok () := by
  have sorted : twoOfEach.IsSorted := by decide
  have bounded : Word.holds 64 twoOfEach.parseWorkers = true := rfl
  obtain ⟨written, -, same, text⟩ := reading_undoes_writing.1 twoOfEach sorted
  have valid : twoOfEach.validate = .ok () := rfl
  refine ⟨sorted, bounded, written, ?_, same.trans valid⟩
  exact text bounded Json.levelLimit (by decide) _ (by simp)

end Config

end Guidebook
