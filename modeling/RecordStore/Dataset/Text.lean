/-
# RecordStore.Dataset.Text — reading datasets.

The text of a dataset is an object of partitions, each an object of records.  Where a name is
given twice the last one counts.  The two outer levels and the record itself use up three of the
containers that a text may nest.
-/
import RecordStore.Dataset.Basic
import RecordStore.Json.Reader

namespace RecordStore.Dataset

/-- A record, whose values may nest `room` containers. -/
def readRecord (room : Nat) (tree : Json.Tree) : Except Json.Fault Record := do
  let fields ← Json.readMap (Json.readValue room) tree
  return ⟨fields⟩

/-- A dataset. -/
def read (tree : Json.Tree) : Except Json.Fault Dataset := do
  let partitions ← Json.readMap (Json.readMap (readRecord (Json.nestingLimit - 3))) tree
  return ⟨partitions⟩

/-- The dataset that a text is, or the first problem of the text. -/
def ofDocument (d : Json.Document) : Except Json.Fault Dataset := do
  let dataset ← read d.tree
  Json.readEnd d
  return dataset

/-- The dataset that a string writes. -/
def ofText (text : String) : Except Error Dataset :=
  (ofDocument (.ofString text)).mapError fun fault => .invalidDataset (.malformed fault)

end RecordStore.Dataset
