/-
# RecordStore.Proofs.Store.OneKey — changes of one key.

An entity that has a key is put under it, and a key can be removed.  Both edit one entry of one
partition and leave everything else as it is; a put moves the counter past the number that the key
writes, if it writes one.  `Edited` says this of two stores by what can be looked up in them, and
leaves nothing open (`Edited.unique`).  An operation of either kind is refused or makes an edit
(`put_eq_ok_iff_edited`, `remove_eq_ok_iff_edited`).

So what becomes of several operations on one key is a matter of edits of one partition and of one
counter (`one_key_laws`).  The last record that is put counts.  A record that is removed after it was
put leaves no trace but in the counter.  To remove a key twice is to remove it once.  What is removed
and put again is the same in all but its place, which is the last one then.
-/
import RecordStore.Catalog
import RecordStore.Proofs.Store.ClaimedKeys

namespace RecordStore

namespace Partition

variable {p : Partition} {key : String} {change : Option Record}

/-- The partition with a record put under a key or, without one, with the key removed. -/
def edited (p : Partition) (key : String) : Option Record → Partition
  | some r => p.insert key r
  | none => p.erase key

theorem get?_edited (p : Partition) (key other : String) (change : Option Record) :
    (p.edited key change).get? other = if other = key then change else p.get? other := by
  cases change with
  | some r => exact get?_insert p key other r
  | none => exact get?_erase p key other

theorem edited_again (p : Partition) (key : String) (change : Option Record) :
    (p.edited key change).edited key change = p.edited key change := by
  cases change with
  | some r => exact insert_insert p key r r
  | none => exact erase_erase p key

end Partition

/-- An entity of the type of a name, with a key that its caller has given it. -/
structure Entity.Supplies (e : Entity) (typeName key : String) : Prop where
  typeName : e.typeName = typeName
  key : e.key = .ok (some key)

namespace Store

open KeyCounter (MovedPast)

/-- Stores are equal if they have the same types, counters and partitions, and these the same records
in the same order. -/
theorem eq_of_same {s s' : Store} (hschema : s.schema = s'.schema)
    (hcounter : s.counter = s'.counter)
    (hkept : ∀ name, s.partitions.contains name = s'.partitions.contains name)
    (h : ∀ name, s.partition name = s'.partition name) : s = s' := by
  have hpartitions := ext_partitions hkept h
  cases s
  cases s'
  simp_all

/-! ## Edits -/

/-- One store is another with one entry of one partition edited, and with its counter moved past
numbers.  A record that is put opens its partition if that is not there. -/
structure Edited (s' s : Store) (name key : String) (change : Option Record)
    (numbers : List UInt64) : Prop where
  schema : s'.schema = s.schema
  counter : MovedPast s.counter numbers s'.counter
  kept : ∀ other, s'.partitions.contains other = true ↔
    (change.isSome = true ∧ other = name) ∨ s.partitions.contains other = true
  partition : ∀ other, s'.partition other =
    if other = name then (s.partition other).edited key change else s.partition other

section Edited

variable {s s₁ s₂ : Store} {name key : String} {change change' : Option Record} {r : Record}
  {numbers numbers' : List UInt64} {c : KeyCounter} {typeName : String} {t : EntityType}

theorem Edited.unique (h₁ : Edited s₁ s name key change numbers)
    (h₂ : Edited s₂ s name key change numbers) : s₁ = s₂ := by
  apply eq_of_same
  · rw [h₁.schema, h₂.schema]
  · exact h₁.counter.unique h₂.counter
  · intro other
    rw [Bool.eq_iff_iff, h₁.kept, h₂.kept]
  · intro other
    rw [h₁.partition, h₂.partition]

theorem Edited.resolve (h : Edited s₁ s name key change numbers)
    (ht : s.schema.resolve typeName = .ok t) : s₁.schema.resolve typeName = .ok t := by
  rw [h.schema]
  exact ht

theorem Edited.get? (h : Edited s₁ s name key change numbers) (other k : String) :
    (s₁.partition other).get? k =
      if other = name ∧ k = key then change else (s.partition other).get? k := by
  rw [h.partition]
  by_cases hother : other = name
  · rw [if_pos hother, Partition.get?_edited]
    by_cases hk : k = key <;> simp [hother, hk]
  · rw [if_neg hother, if_neg fun hboth => hother hboth.1]

/-- Two edits of one key, one after the other. -/
theorem Edited.partition_trans (h₁ : Edited s₁ s name key change numbers)
    (h₂ : Edited s₂ s₁ name key change' numbers') (other : String) :
    s₂.partition other = if other = name then
      ((s.partition other).edited key change).edited key change' else s.partition other := by
  rw [h₂.partition, h₁.partition]
  by_cases hother : other = name
  · rw [if_pos hother, if_pos hother, if_pos hother]
  · rw [if_neg hother, if_neg hother, if_neg hother]

/-- An edit that was made changes nothing when it is made again. -/
theorem Edited.again (h : Edited s₁ s name key change numbers) :
    Edited s₁ s₁ name key change numbers := by
  refine ⟨rfl, h.counter.again, fun other => ?_, fun other => ?_⟩
  · rw [h.kept, ← or_assoc, or_self]
  · rw [h.partition]
    by_cases hother : other = name
    · rw [if_pos hother, if_pos hother, Partition.edited_again]
    · rw [if_neg hother, if_neg hother]

theorem edited_insert (hcounter : MovedPast s.counter numbers c) (name key : String) (r : Record) :
    Edited ({ s with counter := c }.setPartition name ((s.partition name).insert key r)) s
      name key (some r) numbers := by
  refine ⟨rfl, hcounter, fun other => ?_, fun other => ?_⟩
  · show (s.partitions.insert name _).contains other = true ↔ _
    rw [NameMap.contains_insert_iff]
    simp
  · rw [partition_setPartition]
    by_cases hother : other = name
    · rw [if_pos hother, if_pos hother, hother]
      rfl
    · rw [if_neg hother, if_neg hother]
      rfl

/-- After a record was put, putting another under its key is as if the first had never been there. -/
theorem Edited.overwrite (h₁ : Edited s₁ s name key (some r) numbers)
    (h₂ : Edited s₂ s name key (some r') numbers) : Edited s₂ s₁ name key (some r') numbers := by
  refine ⟨h₂.schema.trans h₁.schema.symm, ?_, fun other => ?_, fun other => ?_⟩
  · rw [h₁.counter.unique h₂.counter]
    exact h₂.counter.again
  · rw [h₂.kept, h₁.kept]
    simp
  · rw [h₂.partition, h₁.partition]
    by_cases hother : other = name
    · rw [if_pos hother, if_pos hother, if_pos hother]
      exact ((s.partition other).insert_insert key r r').symm
    · rw [if_neg hother, if_neg hother, if_neg hother]

end Edited

/-! ## Operations that make an edit -/

section Operations

variable {s s' : Store} {typeName key : String} {t : EntityType} {e : Entity} {saved : Saved}

/-- An entity with a key is put by an edit, under the key that it has and as it is. -/
theorem put_eq_ok_iff_edited (ht : s.schema.resolve typeName = .ok t)
    (he : e.Supplies typeName key) :
    s.put e = .ok saved ↔ saved.key = key ∧ saved.entity = e ∧
      Edited saved.store s t.partition key (some e.persisted) (KeyCounter.number? key).toList := by
  have hresolve : s.schema.resolve e.typeName = .ok t := he.typeName ▸ ht
  constructor
  · intro hput
    obtain ⟨u, c, hu, hassign, hstore⟩ := put_eq_ok_iff.mp hput
    obtain rfl : t = u := Except.ok.inj (hresolve.symm.trans hu)
    rcases assignKey_eq_ok_iff.mp hassign with ⟨hkey, hentity, hclaim⟩ | ⟨hkey, _⟩
    · obtain rfl : key = saved.key := Option.some.inj (Except.ok.inj (he.key.symm.trans hkey))
      rw [hentity] at hstore
      rw [hstore]
      exact ⟨rfl, hentity, edited_insert (claimKey_eq_ok_iff_movedPast.mp hclaim) _ _ _⟩
    · cases he.key.symm.trans hkey
  · obtain ⟨savedKey, entity, store⟩ := saved
    rintro ⟨rfl, rfl, hedited⟩
    have hclaim : claimKey s.counter savedKey = .ok store.counter :=
      claimKey_eq_ok_iff_movedPast.mpr hedited.counter
    exact put_eq_ok_iff.mpr ⟨t, store.counter, hresolve,
      assignKey_eq_ok_iff.mpr (.inl ⟨he.key, rfl, hclaim⟩),
      hedited.unique (edited_insert hedited.counter _ _ _)⟩

/-- An entity with a key is put as soon as the number that the key writes leaves room. -/
theorem exists_put (ht : s.schema.resolve typeName = .ok t) (he : e.Supplies typeName key)
    (hroom : ∀ n ∈ (KeyCounter.number? key).toList, n.toNat < 2 ^ 64 - 2) :
    ∃ saved, s.put e = .ok saved := by
  obtain ⟨c, hc⟩ := KeyCounter.exists_movedPast s.counter hroom
  refine ⟨⟨key, e, _⟩, (put_eq_ok_iff_edited ht he).mpr ⟨rfl, rfl, edited_insert hc _ _ _⟩⟩

theorem exists_remove (ht : s.schema.resolve typeName = .ok t) (key : String) :
    ∃ s', s.remove typeName key = .ok s' :=
  ⟨_, remove_eq_ok_iff.mpr ⟨t, ht, rfl⟩⟩

theorem edited_of_remove (ht : s.schema.resolve typeName = .ok t)
    (h : s.remove typeName key = .ok s') : Edited s' s t.partition key none [] := by
  refine ⟨schema_of_remove h, ?_, fun other => ?_, partition_of_remove h ht⟩
  · rw [counter_of_remove h]
    exact KeyCounter.movedPast_nil_iff.mpr rfl
  · -- the partition that is replaced was there before
    obtain ⟨u, hu, rfl⟩ := remove_eq_ok_iff.mp h
    simp only [Option.isSome_none, Bool.false_eq_true, false_and, false_or]
    cases hp : s.partitions.get? u.partition with
    | none => rfl
    | some p =>
      show (s.partitions.insert u.partition _).contains other = true ↔ _
      rw [NameMap.contains_insert_iff, or_iff_right_of_imp]
      rintro rfl
      exact NameMap.contains_iff.mpr ⟨p, hp⟩

/-- A key is removed by an edit, for every type of the schema. -/
theorem remove_eq_ok_iff_edited (ht : s.schema.resolve typeName = .ok t) :
    s.remove typeName key = .ok s' ↔ Edited s' s t.partition key none [] := by
  refine ⟨edited_of_remove ht, fun hedited => ?_⟩
  obtain ⟨without, hremove⟩ := exists_remove ht key
  rw [hremove, hedited.unique (edited_of_remove ht hremove)]

theorem removeEntity_of_supplies (he : e.Supplies typeName key) :
    s.removeEntity e = s.remove typeName key := by
  rw [removeEntity, he.key, ← he.typeName]
  rfl

end Operations

/-! ## The laws of one key -/

section Laws

variable {s : Store} {typeName key : String} {t : EntityType} {e e' : Entity} {saved : Saved}

/-- Of two entities that are put under one key the second is left. -/
theorem put_put (ht : s.schema.resolve typeName = .ok t) (he : e.Supplies typeName key)
    (he' : e'.Supplies typeName key) (hput : s.put e = .ok saved) :
    ∃ saved', s.put e' = .ok saved' ∧ saved.store.put e' = .ok saved' := by
  obtain ⟨-, -, hedited⟩ := (put_eq_ok_iff_edited ht he).mp hput
  obtain ⟨saved', hput'⟩ := exists_put ht he' hedited.counter.room
  obtain ⟨hkey', hentity', hedited'⟩ := (put_eq_ok_iff_edited ht he').mp hput'
  exact ⟨saved', hput', (put_eq_ok_iff_edited (hedited.resolve ht) he').mpr
    ⟨hkey', hentity', hedited.overwrite hedited'⟩⟩

/-- Removing what was put under a new key restores all partitions.  The counter does not go back. -/
theorem put_remove (ht : s.schema.resolve typeName = .ok t) (he : e.Supplies typeName key)
    (hnew : (s.partition t.partition).get? key = none) (hput : s.put e = .ok saved) :
    ∃ back, saved.store.remove typeName key = .ok back ∧
      saved.store.removeEntity e = .ok back ∧ back.schema = s.schema ∧
      (∀ name, back.partition name = s.partition name) ∧
      (s.partitions.contains t.partition = true → back.partitions = s.partitions) ∧
      s.counter.next.toNat ≤ back.counter.next.toNat := by
  obtain ⟨-, -, hedited⟩ := (put_eq_ok_iff_edited ht he).mp hput
  obtain ⟨back, hremove⟩ := exists_remove (hedited.resolve ht) key
  have hback := edited_of_remove (hedited.resolve ht) hremove
  have hpartition : ∀ name, back.partition name = s.partition name := by
    intro name
    rw [hedited.partition_trans hback]
    by_cases hname : name = t.partition
    · subst hname
      rw [if_pos rfl]
      exact ((s.partition t.partition).erase_insert key e.persisted).trans
        (Partition.erase_of_get?_eq_none hnew)
    · rw [if_neg hname]
  refine ⟨back, hremove, ?_, hback.schema.trans hedited.schema, hpartition, fun hthere => ?_, ?_⟩
  · rw [removeEntity_of_supplies he, hremove]
  · refine ext_partitions (fun name => ?_) hpartition
    rw [Bool.eq_iff_iff, hback.kept, hedited.kept]
    by_cases hname : name = t.partition <;> simp [hname, hthere]
  · exact Nat.le_trans hedited.counter.le hback.counter.le

/-- What is removed and then put again is as if it had only been put, but that it comes last. -/
theorem remove_put (ht : s.schema.resolve typeName = .ok t) (he : e.Supplies typeName key)
    {without : Store} (hremove : s.remove typeName key = .ok without)
    (hput : s.put e = .ok saved) :
    ∃ late, without.put e = .ok late ∧ late.key = saved.key ∧ late.entity = saved.entity ∧
      late.store.counter = saved.store.counter ∧
      (∀ name other, (late.store.partition name).get? other =
        (saved.store.partition name).get? other) ∧
      (∀ name, name ≠ t.partition → late.store.partition name = saved.store.partition name) ∧
      (late.store.partition t.partition).keys =
        (saved.store.partition t.partition).keys.filter (fun k => k ≠ key) ++ [key] := by
  obtain ⟨hkey, hentity, hedited⟩ := (put_eq_ok_iff_edited ht he).mp hput
  have hwithout := edited_of_remove ht hremove
  have hresolve := hwithout.resolve ht
  obtain ⟨late, hlate⟩ := exists_put hresolve he hedited.counter.room
  obtain ⟨hkey', hentity', hedited'⟩ := (put_eq_ok_iff_edited hresolve he).mp hlate
  refine ⟨late, hlate, hkey'.trans hkey.symm, hentity'.trans hentity.symm, ?_, ?_, ?_, ?_⟩
  · have hcounter := hedited'.counter
    rw [KeyCounter.movedPast_nil_iff.mp hwithout.counter] at hcounter
    exact hcounter.unique hedited.counter
  · intro name other
    rw [hedited'.get?, hwithout.get?, hedited.get?]
    by_cases hboth : name = t.partition ∧ other = key
    · rw [if_pos hboth, if_pos hboth]
    · rw [if_neg hboth, if_neg hboth, if_neg hboth]
  · intro name hname
    rw [hwithout.partition_trans hedited', hedited.partition, if_neg hname, if_neg hname]
  · rw [hwithout.partition_trans hedited', hedited.partition, if_pos rfl, if_pos rfl]
    show (((s.partition t.partition).erase key).insert key e.persisted).keys =
      ((s.partition t.partition).insert key e.persisted).keys.filter (fun k => k ≠ key) ++ [key]
    rw [Partition.keys_insert_erase, ← Partition.keys_erase (Partition.insert _ key _),
      Partition.erase_insert, Partition.keys_erase]

theorem remove_remove (ht : s.schema.resolve typeName = .ok t) {without : Store}
    (hremove : s.remove typeName key = .ok without) :
    without.remove typeName key = .ok without := by
  have hwithout := edited_of_remove ht hremove
  exact (remove_eq_ok_iff_edited (hwithout.resolve ht)).mpr hwithout.again

/-- The laws of putting and removing under one key, for a type of the schema and entities of this type
that have the key.  A second put leaves the store that it would leave alone.  A put under a new key
followed by a removal restores every partition with its order, so that at most the counter is larger.
Removing twice is removing once.  Removing before a put gives the same records as the put alone, with
the key in the last place. -/
theorem one_key_laws (ht : s.schema.resolve typeName = .ok t) (key : String) :
    (∀ e e' saved, e.Supplies typeName key → e'.Supplies typeName key → s.put e = .ok saved →
      ∃ saved', s.put e' = .ok saved' ∧ saved.store.put e' = .ok saved') ∧
    (∀ e saved, e.Supplies typeName key → (s.partition t.partition).get? key = none →
      s.put e = .ok saved →
      ∃ back, saved.store.remove typeName key = .ok back ∧
        saved.store.removeEntity e = .ok back ∧ back.schema = s.schema ∧
        (∀ name, back.partition name = s.partition name) ∧
        (s.partitions.contains t.partition = true → back.partitions = s.partitions) ∧
        s.counter.next.toNat ≤ back.counter.next.toNat) ∧
    ∃ without, s.remove typeName key = .ok without ∧
      without.remove typeName key = .ok without ∧
      ∀ e saved, e.Supplies typeName key → s.put e = .ok saved →
        ∃ late, without.put e = .ok late ∧ late.key = saved.key ∧ late.entity = saved.entity ∧
          late.store.counter = saved.store.counter ∧
          (∀ name other, (late.store.partition name).get? other =
            (saved.store.partition name).get? other) ∧
          (∀ name, name ≠ t.partition →
            late.store.partition name = saved.store.partition name) ∧
          (late.store.partition t.partition).keys =
            (saved.store.partition t.partition).keys.filter (fun k => k ≠ key) ++ [key] := by
  obtain ⟨without, hremove⟩ := exists_remove ht key
  refine ⟨?overwriting, ?undoing, without, hremove, remove_remove ht hremove, ?moving⟩
  case overwriting =>
    intro e e' saved he he' hput
    exact put_put ht he he' hput
  case undoing =>
    intro e saved he hnew hput
    exact put_remove ht he hnew hput
  case moving =>
    intro e saved he hput
    exact remove_put ht he hremove hput

end Laws

/-- Two tags. -/
def pairOfTags : Store :=
  (empty Catalog.builtIn).setPartition "tags" ((Partition.empty.insert "a" .empty).insert "b" .empty)

/-- A tag whose key is a number. -/
def nine : Entity := .ofType Catalog.tag (Record.empty.insert "value" (.number (.ofWord 9)))

/-- A tag whose key is the text of the same number. -/
def nineInText : Entity :=
  .ofType Catalog.tag ((Record.empty.insert "value" (.text "9")).insert "type" (.text "digit"))

/-- A tag under the key of the first of the two. -/
def firstTag : Entity := .ofType Catalog.tag (Record.empty.insert "value" (.text "a"))

theorem pairOfTags_obeys_one_key_laws :
    pairOfTags.schema.resolve "Tag" = .ok Catalog.tag ∧
    nine.Supplies "Tag" "9" ∧ nineInText.Supplies "Tag" "9" ∧ firstTag.Supplies "Tag" "a" ∧
    (pairOfTags.partition "tags").get? "9" = none ∧
    (∃ saved saved', pairOfTags.put nine = .ok saved ∧ pairOfTags.put nineInText = .ok saved' ∧
      saved.store.put nineInText = .ok saved' ∧
      ∃ back, saved.store.removeEntity nine = .ok back ∧ back.partitions = pairOfTags.partitions) ∧
    ∃ saved without late, pairOfTags.put firstTag = .ok saved ∧
      pairOfTags.remove "Tag" "a" = .ok without ∧ without.remove "Tag" "a" = .ok without ∧
      without.put firstTag = .ok late ∧ (saved.store.partition "tags").keys = ["a", "b"] ∧
      (late.store.partition "tags").keys = ["b", "a"] := by
  have ht : pairOfTags.schema.resolve "Tag" = .ok Catalog.tag := rfl
  have hnine : nine.Supplies "Tag" "9" := ⟨rfl, rfl⟩
  have htext : nineInText.Supplies "Tag" "9" := ⟨rfl, rfl⟩
  have hfirst : firstTag.Supplies "Tag" "a" := ⟨rfl, rfl⟩
  have hnew : (pairOfTags.partition "tags").get? "9" = none := by decide
  obtain ⟨saved, hput⟩ : ∃ saved, pairOfTags.put nine = .ok saved := ⟨_, rfl⟩
  obtain ⟨first, hputFirst, hkeys⟩ : ∃ first, pairOfTags.put firstTag = .ok first ∧
      (first.store.partition "tags").keys = ["a", "b"] := ⟨_, rfl, by decide⟩
  obtain ⟨hoverwriting, hundoing, -⟩ := one_key_laws ht "9"
  obtain ⟨-, -, without, hremove, htwice, hmoving⟩ := one_key_laws ht "a"
  obtain ⟨saved', hput', hagain⟩ := hoverwriting nine nineInText saved hnine htext hput
  obtain ⟨back, -, hback, -, -, hrestored, -⟩ := hundoing nine saved hnine hnew hput
  obtain ⟨late, hlate, -, -, -, -, -, hlast⟩ := hmoving firstTag first hfirst hputFirst
  refine ⟨ht, hnine, htext, hfirst, hnew,
    ⟨saved, saved', hput, hput', hagain, back, hback, hrestored (by decide)⟩,
    first, without, late, hputFirst, hremove, htwice, hlate, hkeys, ?_⟩
  show (late.store.partition Catalog.tag.partition).keys = ["b", "a"]
  rw [hlast, show (first.store.partition Catalog.tag.partition).keys = ["a", "b"] from hkeys]
  rfl

end Store

end RecordStore
