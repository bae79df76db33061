/-
# RecordStore.Proofs.Store.ProjectedAgain — stored records are projected again when they are loaded.

A record is projected when it is put, onto the fields that its entity counts as persisted, and when it
comes with a dataset, onto the fields that the type of its partition declares.  Whichever it was, the
record has the fields of that list and no others (`exists_storesWith_run`).  A store that is written
out and loaded projects its records once more, and this changes nothing of a record exactly if the
type declares the fields that the record was stored with.

Where no partition is shared and entities are made of the types of the schema, that is always so
(`get?_of_load_toDataset`).  An entity brings its own account of its type, however.  If this lists
other fields, the store keeps them until it is written out and loaded (`colour_lost_on_reload`).
-/
import RecordStore.Proofs.Record
import RecordStore.Proofs.Store.Image
import RecordStore.Proofs.Store.Loading
import RecordStore.Proofs.Store.OwnKeys

namespace RecordStore

/-- The list of names onto which an operation projects the records that it stores in a partition. -/
inductive Operation.StoresWith (schema : Schema) : Operation → String → List String → Prop where
  | put {e : Entity} {t : EntityType} (ht : schema.resolve e.typeName = .ok t) :
      StoresWith schema (.put e) t.partition e.properties
  | load {d : Dataset} {name : String} {t : EntityType}
      (ht : schema.typeOfPartition? name = some t) :
      StoresWith schema (.load d) name t.fieldNames
  | reset {d : Dataset} {name : String} {t : EntityType}
      (ht : schema.typeOfPartition? name = some t) :
      StoresWith schema (.reset d) name t.fieldNames

namespace Store

open Record (copyFields)

variable {schema : Schema} {s s' : Store} {d : Dataset} {t : EntityType} {name key : String}
  {r : Record}

/-! ## The fields of stored records -/

/-- The stored form of a record of a dataset has the fields that the type declares. -/
theorem fields_loadedRecord (ht : s.schema.typeOfPartition? name = some t) (field : String) :
    (∃ v, (loadedRecord t key r).get? field = some v) ↔ field ∈ t.fieldNames := by
  have hvalid := Schema.valid_of_mem_toList (Schema.mem_toList_of_typeOfPartition? ht)
  exact (Record.hasShape_loadedRecord hvalid key).fields field

/-- What an operation writes has the fields of the list that it projects onto, and no others. -/
theorem exists_storesWith_of_writes {op : Operation} (hw : Writes s op name key r) :
    ∃ names, op.StoresWith s.schema name names ∧
      ∀ field, (∃ v, r.get? field = some v) ↔ field ∈ names := by
  cases hw with
  | @put e _ saved ht hput =>
    have hproperties : saved.entity.properties = e.properties := by rw [entity_of_put hput]
    refine ⟨e.properties, .put ht, ?_⟩
    rw [← hproperties]
    exact Record.get?_project_isSome_iff saved.entity.properties
  | load _ ht _ => exact ⟨_, .load ht, fields_loadedRecord ht⟩
  | reset _ ht _ => exact ⟨_, .reset ht, fields_loadedRecord ht⟩

/-- Every record that a run leaves has the fields of a list that an operation of the run projects
onto. -/
theorem exists_storesWith_run (ops : List Operation)
    (hr : (((empty schema).run ops).partition name).get? key = some r) :
    ∃ op ∈ ops, ∃ names, op.StoresWith schema name names ∧
      ∀ field, (∃ v, r.get? field = some v) ↔ field ∈ names := by
  refine forall_records_run ops
    (P := fun name _ r => ∃ op ∈ ops, ∃ names, op.StoresWith schema name names ∧
      ∀ field, (∃ v, r.get? field = some v) ↔ field ∈ names) ?_
    (forall_records_empty schema) name key r hr
  intro op hop s hschema name key r hw
  obtain ⟨names, hnames, hfields⟩ := exists_storesWith_of_writes hw
  rw [hschema] at hnames
  exact ⟨op, hop, names, hnames, hfields⟩

/-! ## Loading them again -/

theorem get?_of_load (hload : s.load d = .ok s') (ht : s.schema.typeOfPartition? name = some t)
    (hr : d.get? name key = some r) :
    (s'.partition name).get? key = some (loadedRecord t key r) := by
  obtain ⟨_, counter, _, rfl⟩ := load_eq_ok_iff.mp hload
  rw [get?_partition_withRecords (s := { s with counter := counter }) ht, hr]
  rfl

/-- What a typed run leaves is loaded as it is, into whatever store of the schema. -/
theorem get?_of_load_toDataset (hunshared : schema.Unshared) {ops : List Operation}
    (htyped : ∀ op ∈ ops, op.IsTyped schema)
    (hr : (((empty schema).run ops).partition name).get? key = some r) (hschema : s.schema = schema)
    (hload : s.load ((empty schema).run ops).toDataset = .ok s') :
    (s'.partition name).get? key = some r := by
  obtain ⟨t, ht, hshape⟩ := hasShape_run hunshared htyped name key r hr
  have hvalid := Schema.valid_of_mem_toList (Schema.mem_toList_of_typeOfPartition? ht)
  subst hschema
  rw [get?_of_load hload ht ((get?_toDataset _ name key).trans hr), hshape.loadedRecord_eq hvalid]

/-! ## The laws -/

/-- A projection has each of the names of its list once, with what the record has there or `null`.
Made field by field it is the same, and the record that it is made of is there as it was.  To project
it again changes nothing.  It is known from the set of the names and from the values under them.  To
project it onto other names is to project the record onto them exactly if it has these names too,
except for such as the record has nothing under.

A record that is in a store has been projected by an operation onto the names of some list.  The
projection onto the fields of a type, which comes with loading what the store is written out as,
changes nothing of it exactly if these are the same names.  After a typed run over a schema in which
no partition is shared all records are loaded as they are. -/
theorem projection_laws :
    (∀ (r : Record) (names : List String),
      (r.project names).fields.names.Perm names.dedup ∧
      (∀ name ∈ names, (r.project names).get? name = some ((r.get? name).getD .null)) ∧
      (copyFields names).run ⟨r, .empty⟩ = ((), ⟨r, (r.project names).fields⟩) ∧
      (r.project names).project names = r.project names) ∧
    (∀ (r r' : Record) (names names' : List String), r.project names = r'.project names' ↔
      (∀ name, name ∈ names ↔ name ∈ names') ∧
        ∀ name ∈ names, (r.get? name).getD .null = (r'.get? name).getD .null) ∧
    (∀ (r : Record) (names others : List String),
      (r.project others).project names = r.project names ↔
        ∀ name ∈ names, name ∈ others ∨ (r.get? name).getD .null = .null) ∧
    ∀ (schema : Schema) (ops : List Operation) (name key : String) (r : Record),
      (((empty schema).run ops).partition name).get? key = some r →
      ((empty schema).run ops).toDataset.get? name key = some r ∧
      (∃ op ∈ ops, ∃ names, op.StoresWith schema name names ∧ ∀ t : EntityType,
        r.project t.fieldNames = r ↔ ∀ field, field ∈ names ↔ field ∈ t.fieldNames) ∧
      (schema.Unshared → (∀ op ∈ ops, op.IsTyped schema) →
        (∃ t, schema.typeOfPartition? name = some t ∧ r.project t.fieldNames = r) ∧
        ∀ s s' : Store, s.schema = schema →
          s.load ((empty schema).run ops).toDataset = .ok s' →
          (s'.partition name).get? key = some r) := by
  refine ⟨?fields, fun r r' names names' => Record.project_eq_project_iff,
    fun r names others => Record.project_project_eq_iff, ?stored⟩
  case fields =>
    intro r names
    refine ⟨r.names_project_perm names, ?_, Record.run_copyFields r names, ?_⟩
    · intro name hname
      rw [Record.get?_project, if_pos hname]
    · exact Record.project_project_eq_iff.mpr fun name hname => .inl hname
  case stored =>
    intro schema ops name key r hr
    refine ⟨(get?_toDataset _ name key).trans hr, ?_, fun hunshared htyped => ⟨?_, ?_⟩⟩
    · obtain ⟨op, hop, names, hnames, hfields⟩ := exists_storesWith_run ops hr
      refine ⟨op, hop, names, hnames, fun t => Record.project_eq_self_iff.trans ?_⟩
      exact forall_congr' fun field => iff_congr (hfields field) Iff.rfl
    · obtain ⟨t, ht, hshape⟩ := hasShape_run hunshared htyped name key r hr
      exact ⟨t, ht, hshape.project_eq⟩
    · intro s s' hschema hload
      exact get?_of_load_toDataset hunshared htyped hr hschema hload

theorem zoo_projected_again :
    Catalog.builtIn.Unshared ∧ (∀ op ∈ keyedTags, op.IsTyped Catalog.builtIn) ∧
    ∃ r s', (((empty Catalog.builtIn).run keyedTags).partition "tags").get? "zoo" = some r ∧
      (empty Catalog.builtIn).load ((empty Catalog.builtIn).run keyedTags).toDataset = .ok s' ∧
      ((empty Catalog.builtIn).run keyedTags).toDataset.get? "tags" "zoo" = some r ∧
      (s'.partition "tags").get? "zoo" = some r ∧
      (∃ t, Catalog.builtIn.typeOfPartition? "tags" = some t ∧ r.project t.fieldNames = r) ∧
      (r.project ["value", "type", "value"]).fields.names.Perm ["type", "value"] ∧
      (r.project ["value", "type", "value"]).get? "value" =
        some ((r.get? "value").getD .null) := by
  obtain ⟨hfields, _, _, hstored⟩ := projection_laws
  obtain ⟨r, hr⟩ : ∃ r, (((empty Catalog.builtIn).run keyedTags).partition "tags").get? "zoo" =
      some r := ⟨_, rfl⟩
  obtain ⟨s', hload⟩ : ∃ s', (empty Catalog.builtIn).load
      ((empty Catalog.builtIn).run keyedTags).toDataset = .ok s' := ⟨_, rfl⟩
  obtain ⟨hnames, hvalues, _⟩ := hfields r ["value", "type", "value"]
  obtain ⟨hkept, _, htyped⟩ := hstored Catalog.builtIn keyedTags "tags" "zoo" r hr
  obtain ⟨hproject, hloaded⟩ := htyped Schema.builtIn_unshared keyedTags_typed
  exact ⟨Schema.builtIn_unshared, keyedTags_typed, r, s', hr, hload, hkept,
    hloaded _ s' rfl hload, hproject, hnames, hvalues "value" (by decide)⟩

/-! ## Other definitions -/

/-- Tags that are nothing but their key. -/
def plainTag : EntityType := .keyed "Tag" "tags" "value"

/-- A schema of such tags alone. -/
def plainTags : Schema := Schema.empty.add plainTag (EntityType.valid_keyed "Tag" "tags" "value")

/-- A tag that was made of a definition in which tags have a colour. -/
def redTag : Entity :=
  .ofType (plainTag.withField "colour" .string)
    ((Record.empty.insert "value" (.text "a")).insert "colour" (.text "red"))

/-- The tag is stored with its colour, though the store knows of none.  The colour is also in what the
store is written out as.  Loading this projects the record onto the fields that the store knows, all
of which it had, and the colour is lost. -/
theorem colour_lost_on_reload :
    ∃ saved s', (empty plainTags).put redTag = .ok saved ∧
      saved.store.get "Tag" "a" = .ok (some redTag.data) ∧
      saved.store.toDataset = Dataset.empty.insert "tags" "a" redTag.data ∧
      saved.store.load saved.store.toDataset = .ok s' ∧
      s'.get "Tag" "a" = .ok (some (Record.empty.insert "value" (.text "a"))) ∧
      (∀ field ∈ plainTag.fieldNames, field ∈ redTag.properties) ∧
      redTag.data.project plainTag.fieldNames ≠ redTag.data :=
  ⟨_, _, rfl, rfl, rfl, rfl, rfl, by decide, by decide⟩

end Store

end RecordStore
