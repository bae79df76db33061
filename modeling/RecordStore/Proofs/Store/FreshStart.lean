/-
# RecordStore.Proofs.Store.FreshStart — a reset is a new start, but for the counter.

Resetting clears a copy of the store and loads the dataset there; a new store of the schema loads it
into partitions that have never held anything.  Clearing leaves nothing of what a partition held, so
both are refused for the same causes and come to the same contents (`load_alike`).

What remains of the past is the counter.  Both counters are moved past the same numbers, so the one
of the reset store is the larger of what it was and what the new store has
(`reset_is_fresh_start`).
-/
import RecordStore.Proofs.Store.ClaimedKeys
import RecordStore.Proofs.Store.InPlace
import RecordStore.Proofs.Store.SameContents

namespace RecordStore.Store

variable {s s' : Store}

/-! ## Loading side by side -/

/-- What two stores with the same contents come to when a dataset is loaded into both: they still
have the same contents, and their counters have been moved past the keys of the dataset. -/
structure LoadedAlike (c c' : KeyCounter) (d : Dataset) (s s' : Store) : Prop where
  contents : SameContents s s'
  first : KeyCounter.MovedPast c d.numericKeys s.counter
  second : KeyCounter.MovedPast c' d.numericKeys s'.counter

/-- Any two counters claim the keys of a dataset, or neither does. -/
theorem claimKeys_alike (c c' : KeyCounter) (d : Dataset) :
    Outcome.Alike (fun e e' => KeyCounter.MovedPast c d.numericKeys e ∧
      KeyCounter.MovedPast c' d.numericKeys e') (claimKeys c d) (claimKeys c' d) := by
  cases h : claimKeys c d with
  | error cause =>
    rw [claimKeys_eq_error_iff.mpr (claimKeys_eq_error_iff.mp h)]
    exact .refused cause
  | ok e =>
    have hpast := claimKeys_eq_ok_iff_movedPast.mp h
    obtain ⟨e', hpast'⟩ := KeyCounter.exists_movedPast c' hpast.room
    rw [claimKeys_eq_ok_iff_movedPast.mpr hpast']
    exact .given ⟨hpast, hpast'⟩

theorem load_alike (h : SameContents s s') (d : Dataset) :
    Outcome.Alike (LoadedAlike s.counter s'.counter d) (s.load d) (s'.load d) := by
  have hfind : (d.partitions.names.find? fun name => !s.schema.hasPartition name) =
      d.partitions.names.find? fun name => !s'.schema.hasPartition name := by rw [h.schema]
  unfold load
  rw [hfind]
  split
  · exact .refused _
  · apply (claimKeys_alike s.counter s'.counter d).bind
    rintro e e' ⟨hpast, hpast'⟩
    refine .given ⟨(h.withCounter e e').withRecords d, ?_, ?_⟩
    · rwa [counter_foldl_loadPartition]
    · rwa [counter_foldl_loadPartition]

/-! ## Resetting -/

theorem reset_alike_withDataset (s : Store) (d : Dataset) :
    Outcome.Alike (LoadedAlike s.counter .zero d) (s.reset d) (withDataset s.schema d) :=
  load_alike (sameContents_cleared_empty s) d

theorem covers_reset {d : Dataset} (hs : s.Covers) (h : s.reset d = .ok s') : s'.Covers :=
  covers_load (covers_cleared hs) h

theorem covers_withDataset {schema : Schema} {d : Dataset} (h : withDataset schema d = .ok s) :
    s.Covers :=
  covers_load (covers_empty schema) h

/-- A store is reset to a dataset when a new store of its schema can be made with it, is refused for
the same cause otherwise, and then is left as it was, also when it is reset in place.  After a reset
every partition holds what it holds in the new store, in the same order, and every question is
answered alike, whatever the store held before.  Its counter is the larger of the old one and that of
the new store, and nothing else tells the two stores apart if the old one had just the partitions of
its schema. -/
theorem reset_is_fresh_start (s : Store) (d : Dataset) :
    ((∃ s', s.reset d = .ok s') ↔ ∃ fresh, withDataset s.schema d = .ok fresh) ∧
    (∀ cause, s.reset d = .error cause ↔ withDataset s.schema d = .error cause) ∧
    (∀ cause s', (InPlace.reset d).run s = .error cause s' ↔
      withDataset s.schema d = .error cause ∧ s' = s) ∧
    ∀ s' fresh, s.reset d = .ok s' → withDataset s.schema d = .ok fresh →
      (∀ name, s'.partition name = fresh.partition name) ∧
      (∀ typeName c, s'.query typeName c = fresh.query typeName c) ∧
      (∀ typeName key, s'.get typeName key = fresh.get typeName key) ∧
      (∀ typeName, s'.count typeName = fresh.count typeName) ∧
      s'.toDataset = fresh.toDataset ∧
      s'.counter.next.toNat = max s.counter.next.toNat fresh.counter.next.toNat ∧
      (s.Covers → s' = { fresh with counter := s'.counter }) := by
  have hrefused : ∀ cause, s.reset d = .error cause ↔ withDataset s.schema d = .error cause := by
    intro cause
    rcases (reset_alike_withDataset s d).eq_error_or_eq_ok with
      ⟨other, hreset, hfresh⟩ | ⟨s', fresh, hreset, hfresh, _⟩
    · rw [hreset, hfresh]
    · simp [hreset, hfresh]
  refine ⟨?succeeds, hrefused, ?inPlace, ?same⟩
  case succeeds =>
    rcases (reset_alike_withDataset s d).eq_error_or_eq_ok with
      ⟨cause, hreset, hfresh⟩ | ⟨s', fresh, hreset, hfresh, _⟩
    · simp [hreset, hfresh]
    · exact ⟨fun _ => ⟨fresh, hfresh⟩, fun _ => ⟨s', hreset⟩⟩
  case inPlace =>
    intro cause s'
    rw [InPlace.run_reset, InPlace.allOrNothing_map_eq_error_iff, hrefused]
  case same =>
    intro s' fresh hreset hfresh
    have halike := reset_alike_withDataset s d
    rw [hreset, hfresh] at halike
    obtain ⟨hcontents, hcounter, hnew⟩ := by
      cases halike with
      | given h => exact h
    exact ⟨hcontents.partition, hcontents.query_eq, hcontents.get_eq, hcontents.count_eq,
      hcontents.toDataset_eq, hcounter.next_eq_max hnew,
      fun hs => hcontents.eq_of_covers (covers_reset hs hreset) (covers_withDataset hfresh)⟩

/-- A store that has generated a key, and a dataset that lists one of its partitions anew. -/
def tagsBefore : List Operation :=
  [.put (.ofType Catalog.tag (Record.empty.insert "value" (.text "zoo"))),
    .put (.ofType Catalog.tag (Record.empty.insert "value" (.number (.ofWord 20)))),
    .put (.ofType Catalog.tag .empty)]

/-- Two tags, one of them under a number. -/
def tagsAfresh : Dataset :=
  (Dataset.empty.insert "tags" "zoo" .empty).insert "tags" "11" .empty

theorem tags_reset_afresh :
    ∃ s' fresh, ((empty Catalog.builtIn).run tagsBefore).reset tagsAfresh = .ok s' ∧
      withDataset Catalog.builtIn tagsAfresh = .ok fresh ∧
      ((empty Catalog.builtIn).run tagsBefore).Covers ∧
      (((empty Catalog.builtIn).run tagsBefore).partition "tags").keys = ["zoo", "20", "21"] ∧
      (s'.partition "tags").keys = ["11", "zoo"] ∧
      s'.partition "tags" = fresh.partition "tags" ∧
      s'.query "Tag" none = fresh.query "Tag" none ∧ s'.toDataset = fresh.toDataset ∧
      s'.counter.next.toNat = max 22 fresh.counter.next.toNat ∧
      s' = { fresh with counter := s'.counter } := by
  have hcovers : ((empty Catalog.builtIn).run tagsBefore).Covers :=
    covers_run (covers_empty _) tagsBefore
  obtain ⟨s', hreset⟩ : ∃ s', ((empty Catalog.builtIn).run tagsBefore).reset tagsAfresh = .ok s' :=
    ⟨_, rfl⟩
  obtain ⟨fresh, hfresh⟩ : ∃ fresh, withDataset Catalog.builtIn tagsAfresh = .ok fresh := ⟨_, rfl⟩
  have hkeys : (s'.partition "tags").keys = ["11", "zoo"] := by
    obtain rfl := Except.ok.inj hreset
    rfl
  obtain ⟨_, _, _, hsame⟩ := reset_is_fresh_start ((empty Catalog.builtIn).run tagsBefore) tagsAfresh
  obtain ⟨hpartition, hquery, _, _, hdataset, hcounter, hstore⟩ := hsame s' fresh hreset hfresh
  exact ⟨s', fresh, hreset, hfresh, hcovers, by decide, hkeys, hpartition "tags",
    hquery "Tag" none, hdataset, hcounter, hstore hcovers⟩

end RecordStore.Store
