/-
# RecordStore.Proofs.Dataset.Text — datasets and their texts.

The text of a dataset without doubles is read back as the same dataset, with all its names and values
and its empty partitions and records.  All that the reader asks is that the text does not nest more
than 127 containers, of which the dataset, a partition and a record take up three; the text of a
dataset that nests deeper is refused as unreadable (`text_reads_back`).
-/
import RecordStore.Dataset.Text
import RecordStore.Proofs.Json.ReadingBack

namespace RecordStore

open Json (ReadsBack readsBack_map readsBack_value)

/-! ## Whole values -/

namespace Record

/-- Whether all numbers in a record are whole. -/
def HasNoFloat (r : Record) : Prop := ∀ field v, r.get? field = some v → v.json.hasNoFloat = true

variable {r : Record}

theorem hasNoFloat_iff :
    r.HasNoFloat ↔ ∀ e ∈ r.fields.entries, e.2.json.hasNoFloat = true :=
  ⟨fun h e he => h e.1 e.2 (NameMap.mem_entries_iff.mp he),
    fun h field v hv => h (field, v) (NameMap.mem_entries_iff.mpr hv)⟩

instance (r : Record) : Decidable r.HasNoFloat := decidable_of_iff _ hasNoFloat_iff.symm

/-- A record without doubles is read back. -/
theorem readsBack (h : r.HasNoFloat) (room : Nat) :
    ReadsBack (Dataset.readRecord room) (fun r => r.toValue.json) (room + 1) r := by
  have hfields := readsBack_map (m := r.fields)
    fun e he => readsBack_value (hasNoFloat_iff.mp h e he) room
  exact hfields.map (f := Record.mk) rfl

end Record

namespace Dataset

/-- Whether all numbers in the records of a dataset are whole. -/
def HasNoFloat (d : Dataset) : Prop := ∀ name key r, d.get? name key = some r → r.HasNoFloat

variable {d : Dataset}

theorem hasNoFloat_iff :
    d.HasNoFloat ↔ ∀ e ∈ d.partitions.entries, ∀ f ∈ e.2.entries, f.2.HasNoFloat := by
  constructor
  · intro h e he f hf
    refine h e.1 f.1 f.2 ?_
    rw [get?, NameMap.mem_entries_iff.mp he]
    exact NameMap.mem_entries_iff.mp hf
  · intro h name key r hr
    obtain ⟨records, hrecords, hkey⟩ := Option.bind_eq_some_iff.mp hr
    exact h (name, records) (NameMap.mem_entries_iff.mpr hrecords) (key, r)
      (NameMap.mem_entries_iff.mpr hkey)

instance (d : Dataset) : Decidable d.HasNoFloat := decidable_of_iff _ hasNoFloat_iff.symm

/-- A dataset is written level by level as objects. -/
theorem json_toValue (d : Dataset) :
    d.toValue.json = .object (d.partitions.entries.map fun e =>
      (e.1, .object (e.2.entries.map fun f => (f.1, f.2.toValue.json)))) := by
  simp only [toValue, Value.object, NameMap.map, List.map_map]
  rfl

/-- A dataset without doubles is read back, with room for the containers that a text may nest. -/
theorem readsBack (h : d.HasNoFloat) :
    ReadsBack read (fun d => d.toValue.json) Json.nestingLimit d := by
  have hpartitions := readsBack_map (m := d.partitions)
    fun e he => readsBack_map fun f hf =>
      Record.readsBack (hasNoFloat_iff.mp h e he f hf) (Json.nestingLimit - 3)
  exact hpartitions.map (f := Dataset.mk) (json_toValue d)

/-- A dataset whose numbers are whole is what its text is read as, if the text nests at most as many
containers as a text may; otherwise the text is refused as unreadable. -/
theorem text_reads_back (h : d.HasNoFloat) :
    ofText d.text = if d.toValue.json.depth ≤ Json.nestingLimit then .ok d
      else .error (.invalidDataset (.malformed .unreadable)) := by
  have hread : read d.toValue.json.toTree = _ := readsBack h
  rw [ofText, text, Json.ofString_render, ofDocument, hread]
  split <;> rfl

/-- A list within a list and so on. -/
def nestedLists : Nat → Value
  | 0 => .null
  | n + 1 => .array [nestedLists n]

/-- A partition without records, a record without fields, and one under a key with a quotation mark
that has both ends of the range of whole numbers and a number of nested lists. -/
def oddTags (lists : Nat) : Dataset :=
  let r := ((Record.empty.insert "" (nestedLists lists)).insert "ends"
    (.array [.number (.integer (-2 ^ 63) (by decide)), .number (.integer (2 ^ 64 - 1) (by decide))])
    ).insert "\x00λ" (.object (.ofList [("no", .bool false), ("none", .array [])]))
  let tags := (Dataset.empty.insert "tags" "\"🏷\\" r).insert "tags" "" .empty
  ⟨tags.partitions.insert "apps" .empty⟩

theorem oddTags_read_back :
    (oddTags 124).HasNoFloat ∧ (oddTags 124).toValue.json.depth = 127 ∧
    ofText (oddTags 124).text = .ok (oddTags 124) ∧
    (oddTags 125).HasNoFloat ∧
    ofText (oddTags 125).text = .error (.invalidDataset (.malformed .unreadable)) := by
  have h : (oddTags 124).HasNoFloat := by decide +kernel
  have hdepth : (oddTags 124).toValue.json.depth = 127 := by decide +kernel
  have h' : (oddTags 125).HasNoFloat := by decide +kernel
  have hdeeper : ¬ (oddTags 125).toValue.json.depth ≤ Json.nestingLimit := by decide +kernel
  exact ⟨h, hdepth, (text_reads_back h).trans (if_pos (Nat.le_of_eq hdepth)), h',
    (text_reads_back h').trans (if_neg hdeeper)⟩

/-- Names are written in ascending order, and of their characters only those escaped that have to be. -/
example : (oddTags 1).text = "\x7b\"apps\":\x7b\x7d,\"tags\":\x7b\"\":\x7b\x7d,\"\\\"🏷\\\\\":\x7b" ++
    "\"\":[null],\"\\u0000λ\":\x7b\"no\":false,\"none\":[]\x7d," ++
    "\"ends\":[-9223372036854775808,18446744073709551615]\x7d\x7d\x7d" := by
  decide +kernel

end Dataset

end RecordStore
