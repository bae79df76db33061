/-
# RecordStore.Proofs.Schema.Text — schemas and their texts.

An entity type is written as an object of its four parts, and a list of types as the array of these
objects.  Such a text nests three containers and no more, so a type is read back as it was written
whatever it is named, wherever it is stored and whatever fields it has (`read_toTree`).  What the text
of a list of types says as a schema is therefore what comes of registering these types in turn
(`ofText_listing`); and the types of a schema, listed in any order, are read as this schema
(`listing_reads_back`).
-/
import RecordStore.Catalog
import RecordStore.Proofs.Json.ReadingBack
import RecordStore.Proofs.Schema.Registration

namespace RecordStore

/-! ## Field kinds -/

namespace FieldKind

/-- The name of a kind is read as this kind. -/
theorem readsBack (kind : FieldKind) :
    Json.ReadsBack read (fun kind => .text kind.name) 0 kind := by
  show ofName kind.name = .ok kind
  rw [ofName, ofName?_name]

theorem depthOfMembers_names (l : List (String × FieldKind)) :
    Json.depthOfMembers (l.map fun e => (e.1, .text e.2.name)) = 0 := by
  induction l with
  | nil => rfl
  | cons e rest ih =>
    rw [List.map_cons, Json.depthOfMembers, ih]
    rfl

/-- The kinds of any fields are read back: names do not nest, so there is always room for them. -/
theorem readMap_toTree (fields : NameMap FieldKind) :
    Json.readMap read (Json.object (fields.map fun _ kind => .text kind.name).entries).toTree =
      .ok fields := by
  have hfields := Json.readsBack_map (m := fields) fun e _ => readsBack e.2
  refine hfields.trans (if_pos ?_)
  rw [Json.depth, depthOfMembers_names]

end FieldKind

/-! ## Entity types -/

namespace EntityType

/-- The four members of a type make up its draft, one after another. -/
theorem takeMembers_members (t : EntityType) {tree : Json.Tree}
    (hfields : Json.readMap FieldKind.read tree = .ok t.fields) :
    Json.takeMembers Draft.take .blank [(some "name", .text (some t.name)),
      (some "partition", .text (some t.partition)), (some "keyField", .text (some t.keyField)),
      (some "fields", tree)] =
    .ok ⟨some t.name, some t.partition, some t.keyField, some t.fields⟩ := by
  have hname : Draft.take .blank "name" (.text (some t.name)) =
      .ok ⟨some t.name, none, none, none⟩ := rfl
  have hpartition : Draft.take ⟨some t.name, none, none, none⟩ "partition"
      (.text (some t.partition)) = .ok ⟨some t.name, some t.partition, none, none⟩ := rfl
  have hkeyField : Draft.take ⟨some t.name, some t.partition, none, none⟩ "keyField"
      (.text (some t.keyField)) = .ok ⟨some t.name, some t.partition, some t.keyField, none⟩ := rfl
  have hlast : Draft.take ⟨some t.name, some t.partition, some t.keyField, none⟩ "fields" tree =
      .ok ⟨some t.name, some t.partition, some t.keyField, some t.fields⟩ := by
    show (Json.once "fields" none (Json.readMap FieldKind.read tree) >>= _) = _
    rw [hfields]
    rfl
  simp only [Json.takeMembers, Json.readName, bind, Except.bind, hname, hpartition, hkeyField, hlast]

/-- An entity type is read back from the object that it is written as. -/
theorem read_toTree (t : EntityType) : read t.toJson.toTree = .ok t := by
  have hmembers := takeMembers_members t (FieldKind.readMap_toTree t.fields)
  have hread : read t.toJson.toTree = (Json.takeMembers Draft.take .blank _ >>= fun draft =>
    Json.readEnding .closed >>= fun _ => draft.complete) := rfl
  exact hread.trans (congrArg (· >>= _) hmembers)

end EntityType

/-! ## Lists of types -/

namespace Schema

/-- The text of a list of entity types: the array of their objects, without blanks. -/
def listing (types : List EntityType) : String :=
  (Json.array (types.map EntityType.toJson)).render

theorem readItems_itemTrees (types : List EntityType) :
    Json.readItems EntityType.read (Json.itemTrees (types.map EntityType.toJson)) = .ok types := by
  induction types with
  | nil => rfl
  | cons t rest ih =>
    rw [List.map_cons, Json.itemTrees, Json.readItems, t.read_toTree, ih]
    rfl

/-- The text of a list of types comes to what registering them one after another comes to, be it a
schema or a refusal. -/
theorem ofText_listing (types : List EntityType) : ofText (listing types) = ofTypes types := by
  have hread : typesOfDocument (.ofString (listing types)) = .ok types := by
    rw [listing, Json.ofString_render, typesOfDocument]
    show (Json.readItems EntityType.read (Json.itemTrees (types.map EntityType.toJson)) >>= _) >>= _ = _
    rw [readItems_itemTrees]
    rfl
  rw [ofText, hread]
  rfl

/-- The members of a type stand in a fixed order, its fields in that of their names. -/
example : listing [(EntityType.keyed "Tag" "tags" "value").withField "count" .number] =
    "[\x7b\"name\":\"Tag\",\"partition\":\"tags\",\"keyField\":\"value\"," ++
      "\"fields\":\x7b\"count\":\"Number\",\"value\":\"Key\"\x7d\x7d]" := by decide +kernel

/-- The types of a schema, written one after another in any order, are read as this schema. -/
theorem listing_reads_back {s : Schema} {types : List EntityType} (h : types.Perm s.toList) :
    ofText (listing types) = .ok s := by
  rw [ofText_listing, ofTypes_of_perm_toList h]

/-- Two types that store their records in one partition.  The second has no name, and a quotation mark
for its key field. -/
def oddTypes : List EntityType :=
  [(EntityType.keyed "\x00" "λ🏷" "id").withField "" .array, .keyed "" "λ🏷" "\""]

theorem oddTypes_read_back :
    ∃ s, ofTypes (Catalog.tag :: .keyed "" "tags" "id" :: oddTypes) = .ok s ∧
      (oddTypes ++ [Catalog.tag]).Perm s.toList ∧
      ofText (listing (oddTypes ++ [Catalog.tag])) = .ok s := by
  have hperm : (oddTypes ++ [Catalog.tag]).Perm
      (NameMap.ofList ((Catalog.tag :: .keyed "" "tags" "id" :: oddTypes).map fun t =>
        (t.name, t))).values := by decide +kernel
  obtain ⟨s, hs⟩ : ∃ s, ofTypes (Catalog.tag :: .keyed "" "tags" "id" :: oddTypes) = .ok s := ⟨_, rfl⟩
  rw [← (ofTypes_eq_ok_iff.mp hs).2] at hperm
  exact ⟨s, hs, hperm, listing_reads_back hperm⟩

end Schema

end RecordStore
