import Guidebook.Entity.Codec
import Guidebook.Error
import Guidebook.Index.Document
import Guidebook.Proofs.JsonText
import Guidebook.Proofs.Timestamps

/-!
# Reading back entities and summaries

A summary and an entity are read back from the value that they are written as, and so
from the text of that value.  Only a built-in kind that is given as another kind by its
name is not, and no reader makes one.  A reader of texts has a limit of levels, and gives no
entity whose metadata do not stay below it.
-/

namespace Guidebook

/-! ## Kinds -/

namespace Kind

/-- The kind is not a built-in kind under the name of another one. -/
def IsCanonical (kind : Kind) : Prop :=
  kind ≠ .other "behavior" ∧ kind ≠ .other "recipe"

instance (kind : Kind) : Decidable kind.IsCanonical :=
  inferInstanceAs (Decidable (_ ∧ _))

/-- The canonical kinds are those that their name gives back. -/
theorem ofName_name_iff {kind : Kind} : ofName kind.name = kind ↔ kind.IsCanonical := by
  cases kind with
  | behavior => simp [IsCanonical, ofName, Kind.name]
  | recipe => simp [IsCanonical, ofName, Kind.name]
  | other name =>
      by_cases behavior : name = "behavior"
      · simp [IsCanonical, ofName, Kind.name, behavior]
      · by_cases recipe : name = "recipe"
        · simp [IsCanonical, ofName, Kind.name, recipe]
        · simp [IsCanonical, ofName, Kind.name, behavior, recipe]

theorem ofName_isCanonical (name : String) : (ofName name).IsCanonical := by
  rw [← ofName_name_iff, name_ofName]

end Kind

/-! ## The depth of what is read -/

namespace Json

theorem depth_ofInteger (negative : Bool) (magnitude : Nat) :
    (ofInteger negative magnitude).depth = 0 := by
  simp only [ofInteger, apply_ite depth, depth, ite_self]

theorem depth_of_readNumber? {negative : Bool} {text rest : List Char} {value : Json}
    (read : readNumber? negative text = some (value, rest)) : value.depth = 0 := by
  unfold readNumber? at read
  obtain ⟨-, -, read⟩ := Option.bind_eq_some_iff.mp read
  obtain ⟨-, -, read⟩ := Option.bind_eq_some_iff.mp read
  -- What is made of the parts of a number does not depend on how these are found.
  extract_lets withFraction at read
  have flat : ∀ parts, withFraction parts = some (value, rest) → value.depth = 0 := by
    rintro ⟨fraction, text⟩ made
    dsimp -zeta only [withFraction] at made
    extract_lets withExponent at made
    have flat : ∀ parts, withExponent parts = some (value, rest) → value.depth = 0 := by
      intro parts made
      dsimp only [withExponent] at made
      split at made
      · cases made
        exact depth_ofInteger _ _
      · obtain ⟨-, -, same⟩ := Option.bind_eq_some_iff.mp made
        cases same
        rfl
    split at made
    · obtain ⟨_, -, made⟩ := Option.bind_eq_some_iff.mp made
      obtain ⟨_, -, made⟩ := Option.bind_eq_some_iff.mp made
      exact flat _ made
    · obtain ⟨_, -, made⟩ := Option.bind_eq_some_iff.mp made
      obtain ⟨_, -, made⟩ := Option.bind_eq_some_iff.mp made
      exact flat _ made
    · obtain ⟨_, -, made⟩ := Option.bind_eq_some_iff.mp made
      exact flat _ made
  split at read
  · split at read
    · cases read
    · obtain ⟨_, -, made⟩ := Option.bind_eq_some_iff.mp read
      exact flat _ made
  · obtain ⟨_, -, made⟩ := Option.bind_eq_some_iff.mp read
    exact flat _ made

theorem depthOfFields_ofList_le {fields : List (String × Json)} {levels : Nat}
    (within : depthOfFields fields ≤ levels) : depthOfFields (Keyed.ofList fields) ≤ levels := by
  rw [depthOfFields_le_iff] at within ⊢
  intro field member
  exact within field (Keyed.mem_of_mem_ofList member)

/-- What is read with so much fuel has no more levels than the reader allows. -/
structure StaysWithin (fuel : Nat) : Prop where
  value : ∀ {levels text value rest}, readValue levels fuel text = some (value, rest) →
    value.depth ≤ levels
  items : ∀ {levels text items rest}, readItems levels fuel text = some (items, rest) →
    depthOfItems items ≤ levels
  fields : ∀ {levels text fields rest}, readFields levels fuel text = some (fields, rest) →
    depthOfFields fields ≤ levels

namespace StaysWithin

variable {fuel levels : Nat} {text rest : List Char}

theorem depth_le_of_readValue (stays : StaysWithin fuel) {value : Json}
    (read : readValue levels (fuel + 1) text = some (value, rest)) : value.depth ≤ levels := by
  have flat : value.depth = 0 → value.depth ≤ levels := fun bare => bare ▸ Nat.zero_le levels
  unfold readValue at read
  split at read
  · obtain ⟨_, -, same⟩ := Option.bind_eq_some_iff.mp read
    cases same
    exact flat rfl
  · -- An array takes one level, and what is in it has to do with the others.
    split at read
    · cases read
    · next positive _ =>
        cases read
        exact Nat.pos_of_ne_zero positive
    · obtain ⟨_, inner, same⟩ := Option.bind_eq_some_iff.mp read
      cases same
      exact Nat.succ_le_succ (stays.items inner)
  · split at read
    · cases read
    · next positive _ =>
        cases read
        exact Nat.pos_of_ne_zero positive
    · obtain ⟨_, inner, same⟩ := Option.bind_eq_some_iff.mp read
      cases same
      exact Nat.succ_le_succ (depthOfFields_ofList_le (stays.fields inner))
  · exact flat (depth_of_readNumber? read)
  · obtain ⟨_, -, same⟩ := Option.map_eq_some_iff.mp read
    cases same
    exact flat rfl
  · obtain ⟨_, -, same⟩ := Option.map_eq_some_iff.mp read
    cases same
    exact flat rfl
  · obtain ⟨_, -, same⟩ := Option.map_eq_some_iff.mp read
    cases same
    exact flat rfl
  · exact flat (depth_of_readNumber? read)

theorem depth_le_of_readItems (stays : StaysWithin fuel) {items : List Json}
    (read : readItems levels (fuel + 1) text = some (items, rest)) :
    depthOfItems items ≤ levels := by
  obtain ⟨⟨item, _⟩, first, read⟩ := Option.bind_eq_some_iff.mp read
  dsimp only at read
  split at read
  · cases read
    exact Nat.max_le.mpr ⟨stays.value first, Nat.zero_le levels⟩
  · obtain ⟨_, later, same⟩ := Option.bind_eq_some_iff.mp read
    cases same
    exact Nat.max_le.mpr ⟨stays.value first, stays.items later⟩
  · cases read

theorem depth_le_of_readFields (stays : StaysWithin fuel) {fields : List (String × Json)}
    (read : readFields levels (fuel + 1) text = some (fields, rest)) :
    depthOfFields fields ≤ levels := by
  unfold readFields at read
  split at read
  · obtain ⟨⟨key, _⟩, -, read⟩ := Option.bind_eq_some_iff.mp read
    dsimp only at read
    split at read
    · obtain ⟨⟨value, _⟩, first, read⟩ := Option.bind_eq_some_iff.mp read
      dsimp only at read
      split at read
      · cases read
        exact Nat.max_le.mpr ⟨stays.value first, Nat.zero_le levels⟩
      · obtain ⟨_, later, same⟩ := Option.bind_eq_some_iff.mp read
        cases same
        exact Nat.max_le.mpr ⟨stays.value first, stays.fields later⟩
      · cases read
    · cases read
  · cases read

end StaysWithin

theorem staysWithin (fuel : Nat) : StaysWithin fuel := by
  induction fuel with
  | zero => exact ⟨nofun, nofun, nofun⟩
  | succ fuel stays =>
      exact ⟨stays.depth_le_of_readValue, stays.depth_le_of_readItems,
        stays.depth_le_of_readFields⟩

theorem depth_le_of_parseWithin? {levels : Nat} {text : String} {value : Json}
    (parsed : parseWithin? levels text = some value) : value.depth ≤ levels := by
  obtain ⟨⟨value, rest⟩, read, ended⟩ := Option.bind_eq_some_iff.mp parsed
  obtain ⟨-, -, same⟩ := Option.bind_eq_some_iff.mp ended
  cases same
  exact (staysWithin _).value read

end Json

/-! ## Summaries -/

theorem Json.texts?_strings (values : List String) : texts? (strings values) = some values := by
  rw [strings, texts?]
  induction values with
  | nil => rfl
  | cons value rest ih =>
      rw [List.map_cons, List.mapM_cons, ih]
      rfl

@[simp] theorem Tier.optionOfJson?_name (tier : Tier) :
    optionOfJson? (.str tier.name) = some (some tier) := by
  simp [optionOfJson?, ofJson?]

namespace Summary

theorem ofJson?_toJson {summary : Summary} (canonical : summary.kind.IsCanonical) :
    ofJson? summary.toJson = some summary := by
  obtain ⟨id, kind, tier, tags, description⟩ := summary
  have back := Kind.ofName_name_iff.mpr canonical
  dsimp only at back
  cases tier <;> cases tags <;>
    simp [ofJson?, toJson, ofValues?, Json.lookup?, List.lookup_cons, Json.text?, Json.orDefault,
      Json.texts?_strings, back]

/-- The order of the fields is of no account. -/
theorem ofJson?_obj_ofList {fields : List (String × Json)}
    (distinct : (fields.map (·.1)).Nodup) :
    ofJson? (.obj (Keyed.ofList fields)) = ofJson? (.obj fields) := by
  simp only [ofJson?, Json.lookup?, Keyed.lookup_ofList distinct]

/-- The fields of a summary have names of their own, and all of them are texts but the tags. -/
theorem toJson_cases (summary : Summary) : ∃ fields, summary.toJson = .obj fields ∧
    (fields.map (·.1)).Nodup ∧
    ∀ field ∈ fields, (∃ text, field.2 = .str text) ∨ field.2 = Json.strings summary.tags := by
  obtain ⟨id, kind, tier, tags, description⟩ := summary
  refine ⟨_, rfl, ?_⟩
  cases tier <;> cases tags <;> simp

theorem parse_toJson {summary : Summary} (canonical : summary.kind.IsCanonical)
    {levels : Nat} (within : 1 ≤ levels) {text : String}
    (form : text ∈ [summary.toJson.compact, summary.toJson.pretty]) :
    (Json.parseWithin? (levels + 1) text).bind ofJson? = some summary := by
  have back := ofJson?_toJson canonical
  obtain ⟨fields, shape, distinct, each⟩ := summary.toJson_cases
  rw [shape] at back form
  have plain : ∀ field ∈ fields, field.2.Plain ∧ field.2.depth ≤ levels := by
    intro field member
    rcases each field member with ⟨text, same⟩ | same <;> rw [same]
    · exact ⟨.str, Nat.zero_le levels⟩
    · exact ⟨Json.plain_strings _, Nat.le_trans (Json.depth_strings_le _) within⟩
  -- The fields come back in another order, in which they are found under the same names.
  rw [Json.parseWithin?_obj (fun field member => (plain field member).1)
    (fun field member => (plain field member).2) form, Option.bind_some,
    ofJson?_obj_ofList distinct, back]

theorem isCanonical_of_ofValues? {id kind tier tags description : Option Json}
    {summary : Summary} (read : ofValues? id kind tier tags description = some summary) :
    summary.kind.IsCanonical := by
  simp only [ofValues?, Option.bind_eq_bind, Option.pure_def, Option.bind_eq_some_iff] at read
  obtain ⟨_, -, _, -, _, -, name, -, _, -, _, -, _, -, same⟩ := read
  cases same
  exact Kind.ofName_isCanonical name

theorem isCanonical_of_ofJson? {value : Json} {summary : Summary}
    (read : ofJson? value = some summary) : summary.kind.IsCanonical := by
  unfold ofJson? at read
  split at read
  · exact isCanonical_of_ofValues? read
  · split at read
    · exact isCanonical_of_ofValues? read
    · cases read
  · cases read

end Summary

/-! ## Entities -/

namespace Entity

theorem ofJson?_toJson {entity : Entity} (canonical : entity.kind.IsCanonical) :
    ofJson? entity.toJson = some { entity with originatingBackend := none } := by
  obtain ⟨id, kind, tier, body, resourceLocator, metadata, lastUpdated, stamp⟩ := entity
  have back := Kind.ofName_name_iff.mpr canonical
  dsimp only at back
  cases tier <;>
    simp [ofJson?, toJson, toFields, ofValues?, Json.lookup?, List.lookup_cons, Json.text?,
      Json.orDefault, Json.fields?, Moment.parse?_rfc3339, back]

@[inherit_doc Summary.ofJson?_obj_ofList]
theorem ofJson?_obj_ofList {fields : List (String × Json)}
    (distinct : (fields.map (·.1)).Nodup) :
    ofJson? (.obj (Keyed.ofList fields)) = ofJson? (.obj fields) := by
  simp only [ofJson?, Json.lookup?, Keyed.lookup_ofList distinct]

theorem toFields_nodup (entity : Entity) : (entity.toFields.map (·.1)).Nodup := by
  obtain ⟨id, kind, tier, body, resourceLocator, metadata, lastUpdated, stamp⟩ := entity
  cases tier <;> simp [toFields]

/-- The fields of an entity are texts but for the metadata. -/
theorem toFields_cases {entity : Entity} {field : String × Json}
    (member : field ∈ entity.toFields) :
    (∃ text, field.2 = .str text) ∨ field.2 = .obj entity.metadata := by
  obtain ⟨id, kind, tier, body, resourceLocator, metadata, lastUpdated, stamp⟩ := entity
  revert field
  cases tier <;> simp [toFields]

theorem parse_toJson {entity : Entity} (canonical : entity.kind.IsCanonical)
    (plain : (Json.obj entity.metadata).Plain) {levels : Nat}
    (within : (Json.obj entity.metadata).depth ≤ levels) {text : String}
    (form : text ∈ [entity.toJson.compact, entity.toJson.pretty]) :
    (Json.parseWithin? (levels + 1) text).bind ofJson? =
      some { entity with originatingBackend := none } := by
  have each : ∀ field ∈ entity.toFields, field.2.Plain ∧ field.2.depth ≤ levels := by
    intro field member
    rcases toFields_cases member with ⟨text, same⟩ | same <;> rw [same]
    · exact ⟨.str, Nat.zero_le levels⟩
    · exact ⟨plain, within⟩
  rw [Json.parseWithin?_obj (fun field member => (each field member).1)
    (fun field member => (each field member).2) form, Option.bind_some,
    ofJson?_obj_ofList entity.toFields_nodup]
  exact ofJson?_toJson canonical

theorem isCanonical_of_ofValues?
    {id kind tier body resourceLocator metadata lastUpdated : Option Json} {entity : Entity}
    (read : ofValues? id kind tier body resourceLocator metadata lastUpdated = some entity) :
    entity.kind.IsCanonical := by
  simp only [ofValues?, Option.bind_eq_bind, Option.pure_def, Option.bind_eq_some_iff] at read
  obtain ⟨_, -, _, -, _, -, name, -, _, -, _, -, _, -, _, -, _, -, _, -, _, -, _, -, _, -, same⟩ :=
    read
  cases same
  exact Kind.ofName_isCanonical name

theorem isCanonical_of_ofJson? {value : Json} {entity : Entity}
    (read : ofJson? value = some entity) : entity.kind.IsCanonical := by
  unfold ofJson? at read
  split at read
  · exact isCanonical_of_ofValues? read
  · split at read
    · exact isCanonical_of_ofValues? read
    · cases read
  · cases read

end Entity

/-- The metadata of an entity that is read are empty or one of its values. -/
theorem Entity.metadata_of_ofValues?
    {id kind tier body resourceLocator metadata lastUpdated : Option Json} {entity : Entity}
    (read : ofValues? id kind tier body resourceLocator metadata lastUpdated = some entity) :
    entity.metadata = [] ∨ metadata = some (.obj entity.metadata) := by
  simp only [ofValues?, Option.bind_eq_bind, Option.pure_def, Option.bind_eq_some_iff] at read
  obtain ⟨_, -, _, -, _, -, _, -, _, -, _, -, _, -, _, -, _, -, fields, given, _, -, _, -, _, -,
    same⟩ := read
  cases same
  cases metadata with
  | none => exact .inl (Option.some.inj given).symm
  | some value =>
      cases value with
      | obj members =>
          cases given
          exact .inr rfl
      | _ => cases given

theorem Entity.depth_metadata_lt {value : Json} {entity : Entity}
    (read : ofJson? value = some entity) :
    entity.metadata = [] ∨ (Json.obj entity.metadata).depth < value.depth := by
  unfold ofJson? at read
  split at read
  · refine (metadata_of_ofValues? read).imp_right fun given => ?_
    obtain ⟨before, after, rfl, -⟩ := List.lookup_eq_some_iff.mp given
    exact Nat.lt_succ_of_le (Json.depthOfFields_le_iff.mp (Nat.le_refl _)
      ("metadata", .obj entity.metadata) List.mem_append_cons_self)
  · split at read
    · refine (metadata_of_ofValues? read).imp_right fun given => ?_
      exact Nat.lt_succ_of_le
        (Json.depthOfItems_le_iff.mp (Nat.le_refl _) _ (List.mem_of_getElem? given))
    · cases read
  · cases read

/-- An entity that is read from a text has metadata that stay below the limit of the reader. -/
theorem Entity.depth_metadata_lt_of_parse {limit : Nat} (room : 1 < limit) {text : String}
    {entity : Entity} (read : (Json.parseWithin? limit text).bind ofJson? = some entity) :
    (Json.obj entity.metadata).depth < limit := by
  obtain ⟨value, parsed, decoded⟩ := Option.bind_eq_some_iff.mp read
  rcases depth_metadata_lt decoded with empty | below
  · rw [empty]
    exact room
  · exact Nat.lt_of_lt_of_le below (Json.depth_le_of_parseWithin? parsed)

/-- The kind of a document is the one that its type names. -/
theorem Document.kind_of_parse {wording : String → String} {path : Path} {text : String}
    {type : DocumentType} {requireExplicitId : Bool} {modified : Moment} {entity : Entity}
    (parsed : parse wording path text type requireExplicitId modified = .ok entity) :
    entity.kind = Kind.ofName type.name := by
  unfold parse at parsed
  split at parsed
  · cases parsed
  · obtain ⟨metadata, -, complete⟩ := bind_eq_ok_iff.mp parsed
    dsimp only at complete
    split at complete
    · cases complete
    · obtain ⟨id, -, tiered⟩ := bind_eq_ok_iff.mp complete
      split at tiered
      · obtain ⟨tier, -, made⟩ := bind_eq_ok_iff.mp tiered
        cases made
        rfl
      · cases tiered
        rfl

/-! ## Reading back -/

/-- Reading undoes writing.  A summary of a canonical kind is read back from its written
form, and from either text of it within two levels; so is an entity of a canonical kind but
for its stamp, from a text when its metadata are written without loss and their depth is
below the limit.  The reader of JSON allows `Json.levelLimit` levels: entities whose metadata
are as deep as that or deeper are read back from their values, but not from their texts
(`Entity.depth_metadata_lt_of_parse`).  The kinds that names, readers and documents give are
canonical. -/
theorem decoding_undoes_encoding :
    (∀ summary : Summary, summary.kind.IsCanonical →
      Summary.ofJson? summary.toJson = some summary ∧
      (∀ limit, 2 ≤ limit → ∀ text ∈ [summary.toJson.compact, summary.toJson.pretty],
        (Json.parseWithin? limit text).bind Summary.ofJson? = some summary) ∧
      ∀ text ∈ [summary.toJson.compact, summary.toJson.pretty],
        (Json.parse? text).bind Summary.ofJson? = some summary) ∧
    (∀ entity : Entity, entity.kind.IsCanonical →
      Entity.ofJson? entity.toJson = some { entity with originatingBackend := none } ∧
      ((Json.obj entity.metadata).Plain →
        (∀ limit, (Json.obj entity.metadata).depth < limit →
          ∀ text ∈ [entity.toJson.compact, entity.toJson.pretty],
            (Json.parseWithin? limit text).bind Entity.ofJson? =
              some { entity with originatingBackend := none }) ∧
        ((Json.obj entity.metadata).depth < Json.levelLimit →
          ∀ text ∈ [entity.toJson.compact, entity.toJson.pretty],
            (Json.parse? text).bind Entity.ofJson? =
              some { entity with originatingBackend := none }))) ∧
    (∀ name, (Kind.ofName name).IsCanonical) ∧
    (∀ value summary, Summary.ofJson? value = some summary → summary.kind.IsCanonical) ∧
    (∀ value entity, Entity.ofJson? value = some entity → entity.kind.IsCanonical) ∧
    (∀ wording path text type requireExplicitId modified entity,
      Document.parse wording path text type requireExplicitId modified = .ok entity →
        entity.kind.IsCanonical) := by
  refine ⟨?summaries, ?entities, Kind.ofName_isCanonical,
    fun _ _ => Summary.isCanonical_of_ofJson?, fun _ _ => Entity.isCanonical_of_ofJson?,
    ?documents⟩
  case summaries =>
    intro summary canonical
    have back : ∀ limit, 2 ≤ limit → ∀ text ∈ [summary.toJson.compact, summary.toJson.pretty],
        (Json.parseWithin? limit text).bind Summary.ofJson? = some summary := by
      intro limit within text form
      obtain ⟨levels, rfl⟩ := Nat.exists_eq_add_one_of_ne_zero (Nat.ne_zero_of_lt within)
      exact Summary.parse_toJson canonical (Nat.le_of_succ_le_succ within) form
    exact ⟨Summary.ofJson?_toJson canonical, back, back Json.levelLimit (by decide)⟩
  case entities =>
    intro entity canonical
    refine ⟨Entity.ofJson?_toJson canonical, fun plain => ?_⟩
    have back : ∀ limit, (Json.obj entity.metadata).depth < limit →
        ∀ text ∈ [entity.toJson.compact, entity.toJson.pretty],
          (Json.parseWithin? limit text).bind Entity.ofJson? =
            some { entity with originatingBackend := none } := by
      intro limit within text form
      obtain ⟨levels, rfl⟩ := Nat.exists_eq_add_one_of_ne_zero (Nat.ne_zero_of_lt within)
      exact Entity.parse_toJson canonical plain (Nat.le_of_lt_succ within) form
    exact ⟨back, back Json.levelLimit⟩
  case documents =>
    intro wording path text type requireExplicitId modified entity parsed
    rw [Document.kind_of_parse parsed]
    exact Kind.ofName_isCanonical type.name

/-- An entity of a kind that is not built in, last changed in a leap second of a year before
the common era, with nested metadata and a stamp. -/
def leapSecondEntity : Entity where
  id := "flush"
  kind := .other "Behavior"
  tier := some .must
  body := "Say \"when\".\n\tThen stop."
  resourceLocator := "/docs/flush.md"
  metadata := [("id", .str "flush"), ("steps", .arr [.int (-3), .obj [("last", .null)]])]
  lastUpdated :=
    { year := -44
      month := 3
      day := 15
      secondOfDay := 86399
      nanosecond := 1500000000
      year_mem := by decide
      month_mem := by decide
      day_mem := by decide
      second_lt := by decide
      nanosecond_lt := by decide
      leap_second := by decide }
  originatingBackend := some "local"

theorem decoding_undoes_encoding_leapSecond :
    leapSecondEntity.kind.IsCanonical ∧ (Json.obj leapSecondEntity.metadata).Plain ∧
    (Json.obj leapSecondEntity.metadata).depth < Json.levelLimit ∧
    Entity.ofJson? leapSecondEntity.toJson =
      some { leapSecondEntity with originatingBackend := none } ∧
    (Json.parse? leapSecondEntity.toJson.pretty).bind Entity.ofJson? =
      some { leapSecondEntity with originatingBackend := none } ∧
    (Json.parse? leapSecondEntity.summary.toJson.compact).bind Summary.ofJson? =
      some leapSecondEntity.summary := by
  have canonical : leapSecondEntity.kind.IsCanonical := by decide
  have inner : (Json.obj [("last", .null)]).Plain := .obj (by simp) (by simpa using Json.Plain.null)
  have steps : (Json.arr [.int (-3), .obj [("last", .null)]]).Plain :=
    .arr (by simpa [inner] using Json.Plain.int (by decide))
  have plain : (Json.obj leapSecondEntity.metadata).Plain :=
    .obj (by decide) (by simpa [leapSecondEntity, steps] using Json.Plain.str)
  have shallow : (Json.obj leapSecondEntity.metadata).depth < Json.levelLimit := by decide
  have ⟨value, text⟩ := decoding_undoes_encoding.2.1 leapSecondEntity canonical
  have ⟨_, _, summary⟩ := decoding_undoes_encoding.1 leapSecondEntity.summary canonical
  exact ⟨canonical, plain, shallow, value, (text plain).2 shallow _ (by simp),
    summary _ (by simp)⟩

end Guidebook
