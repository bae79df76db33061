/-
# RecordStore.Proofs.Store.TwoKeys — changes of two keys in either order.

An operation that is given its key, a put or a removal, is refused by all stores of a schema or edits
the same entry of all of them in the same way (`acts_of_namesKey`).  What else a store holds, and where
its counter stands, have no part in this.  So two such operations have the same outcomes in either
order.

Edits of two entries commute in what can be looked up (`Edited.get?_comm`), and the counter does not
depend on the order in which it is moved past numbers.  The order of visiting is different only where
two new keys come to the end of one partition, so that with two partitions, or with a removal, the
stores are the same (`Edited.comm`).
-/
import RecordStore.Proofs.Store.OneKey
import RecordStore.Proofs.Store.Run

namespace RecordStore

theorem Partition.edited_comm {p : Partition} {key other : String} {change change' : Option Record}
    (hne : key ≠ other) (hremoval : change = none ∨ change' = none) :
    (p.edited key change).edited other change' = (p.edited other change').edited key change := by
  rcases hremoval with rfl | rfl
  · cases change' with
    | some r => exact (erase_insert_of_ne p r hne.symm).symm
    | none => exact erase_comm p key other
  · cases change with
    | some r => exact erase_insert_of_ne p r hne
    | none => exact erase_comm p key other

/-! ## Operations that are given their keys -/

/-- The operation puts an entity that does not wait for a generated key, or removes a key. -/
inductive Operation.NamesKey : Operation → Prop where
  | put {e : Entity} (h : e.key ≠ .ok none) : NamesKey (.put e)
  | remove (typeName key : String) : NamesKey (.remove typeName key)
  | removeEntity {e : Entity} (h : e.key ≠ .ok none) : NamesKey (.removeEntity e)

theorem Entity.Supplies.namesKey {e : Entity} {typeName key : String}
    (he : e.Supplies typeName key) : Operation.NamesKey (.put e) :=
  .put fun hnone => by cases he.key.symm.trans hnone

/-- The partition and the key that an operation is about.  One for a type that the schema does not
have is about none. -/
inductive Operation.Addresses (schema : Schema) : Operation → String → String → Prop where
  | put {e : Entity} {t : EntityType} {key : String}
      (ht : schema.resolve e.typeName = .ok t) (hkey : e.key = .ok (some key)) :
      Addresses schema (.put e) t.partition key
  | remove {typeName : String} {t : EntityType} (ht : schema.resolve typeName = .ok t)
      (key : String) : Addresses schema (.remove typeName key) t.partition key
  | removeEntity {e : Entity} {t : EntityType} {key : String}
      (ht : schema.resolve e.typeName = .ok t) (hkey : e.key = .ok (some key)) :
      Addresses schema (.removeEntity e) t.partition key

theorem Operation.Addresses.unique {schema : Schema} {op : Operation} {name name' key key' : String}
    (h : op.Addresses schema name key) (h' : op.Addresses schema name' key') :
    name = name' ∧ key = key' := by
  cases h with
  | put ht hkey =>
    cases h' with
    | put ht' hkey' =>
      obtain rfl := Except.ok.inj (ht.symm.trans ht')
      exact ⟨rfl, Option.some.inj (Except.ok.inj (hkey.symm.trans hkey'))⟩
  | remove ht _ =>
    cases h' with
    | remove ht' _ =>
      obtain rfl := Except.ok.inj (ht.symm.trans ht')
      exact ⟨rfl, rfl⟩
  | removeEntity ht hkey =>
    cases h' with
    | removeEntity ht' hkey' =>
      obtain rfl := Except.ok.inj (ht.symm.trans ht')
      exact ⟨rfl, Option.some.inj (Except.ok.inj (hkey.symm.trans hkey'))⟩

/-- Two operations are not about the same key of the same partition. -/
def Operation.Apart (schema : Schema) (op op' : Operation) : Prop :=
  ∀ name key, op.Addresses schema name key → ¬ op'.Addresses schema name key

theorem Operation.Addresses.apart {schema : Schema} {op op' : Operation}
    {name name' key key' : String} (h : op.Addresses schema name key)
    (h' : op'.Addresses schema name' key') (hne : ¬ (name = name' ∧ key = key')) :
    op.Apart schema op' := by
  intro other k hop hop'
  obtain ⟨rfl, rfl⟩ := h.unique hop
  exact hne (hop'.unique h')

/-- Two operations are not about the same partition. -/
def Operation.InOtherPartitions (schema : Schema) (op op' : Operation) : Prop :=
  ∀ name key key', op.Addresses schema name key → ¬ op'.Addresses schema name key'

/-- Whether an operation is a removal. -/
def Operation.isRemoval : Operation → Bool
  | .remove _ _ | .removeEntity _ => true
  | _ => false

namespace Store

/-- What a caller is told of an operation: why it is refused or else, of a put, the key and the
entity as it is then. -/
def outcome (s : Store) : Operation → Except Error (Option (String × Entity))
  | .put e => (s.put e).map fun saved => some (saved.key, saved.entity)
  | op => (s.perform op).map fun _ => none

/-! ## Edits of two entries -/

section Edits

variable {s s₁ s₂ d₁ d₂ : Store} {name name' key key' : String} {change change' : Option Record}
  {numbers numbers' : List UInt64}

-- a store is edited in two entries, in either order
variable (h₁ : Edited s₁ s name key change numbers)
  (h₁' : Edited d₁ s₁ name' key' change' numbers')
  (h₂ : Edited s₂ s name' key' change' numbers') (h₂' : Edited d₂ s₂ name key change numbers)

include h₁ h₁' h₂ h₂'

theorem Edited.counter_comm : d₁.counter = d₂.counter :=
  h₁.counter.comm h₁'.counter h₂.counter h₂'.counter

theorem Edited.get?_comm (hapart : ¬ (name = name' ∧ key = key')) (other k : String) :
    (d₁.partition other).get? k = (d₂.partition other).get? k := by
  rw [h₁'.get?, h₁.get?, h₂'.get?, h₂.get?]
  by_cases hfirst : other = name ∧ k = key
  · have hsecond : ¬ (other = name' ∧ k = key') := by
      rintro ⟨rfl, rfl⟩
      exact hapart ⟨hfirst.1.symm, hfirst.2.symm⟩
    rw [if_neg hsecond, if_pos hfirst, if_pos hfirst]
  · rw [if_neg hfirst, if_neg hfirst]

/-- Edits of two entries leave one store in either order unless they put records under two keys of one
partition. -/
theorem Edited.comm (hapart : ¬ (name = name' ∧ key = key'))
    (hplaces : name ≠ name' ∨ change = none ∨ change' = none) : d₁ = d₂ := by
  apply eq_of_same
  · rw [h₁'.schema, h₁.schema, h₂'.schema, h₂.schema]
  · exact Edited.counter_comm h₁ h₁' h₂ h₂'
  · intro other
    rw [Bool.eq_iff_iff, h₁'.kept, h₁.kept, h₂'.kept, h₂.kept]
    exact or_left_comm
  · intro other
    rw [h₁'.partition, h₁.partition, h₂'.partition, h₂.partition]
    by_cases hname : other = name
    · by_cases hname' : other = name'
      · rw [if_pos hname, if_pos hname, if_pos hname', if_pos hname']
        have hsame : name = name' := hname.symm.trans hname'
        exact Partition.edited_comm (fun hkey => hapart ⟨hsame, hkey⟩)
          (hplaces.resolve_left fun hne => hne hsame)
      · rw [if_neg hname', if_neg hname', if_pos hname]
    · rw [if_neg hname, if_neg hname]

end Edits

/-! ## Operations as edits -/

/-- What an operation does to the stores of a schema: they all refuse it for one reason, or it edits
the same entry of all of them in the same way. -/
inductive Acts (schema : Schema) (op : Operation) : Prop where
  | refused (cause : Error)
      (h : ∀ s : Store, s.schema = schema → s.outcome op = .error cause ∧ s.after op = s)
  | edits {name key : String} {change : Option Record} {numbers : List UInt64}
      {told : Option (String × Entity)} (haddress : op.Addresses schema name key)
      (hremoval : op.isRemoval = true → change = none)
      (h : ∀ s : Store, s.schema = schema →
        s.outcome op = .ok told ∧ Edited (s.after op) s name key change numbers)

section Acts

variable {schema : Schema} {s s' : Store} {op op' : Operation}

theorem Acts.outcome_eq (h : Acts schema op) (hs : s.schema = schema) (hs' : s'.schema = schema) :
    s.outcome op = s'.outcome op := by
  cases h with
  | refused _ h => rw [(h s hs).1, (h s' hs').1]
  | edits _ _ h => rw [(h s hs).1, (h s' hs').1]

theorem outcome_put_error {e : Entity} {cause : Error} (h : s.put e = .error cause) :
    s.outcome (.put e) = .error cause ∧ s.after (.put e) = s := by
  simp only [outcome, after, perform, h]
  exact ⟨rfl, rfl⟩

theorem outcome_put_ok {e : Entity} {saved : Saved} (h : s.put e = .ok saved) :
    s.outcome (.put e) = .ok (some (saved.key, saved.entity)) ∧
      s.after (.put e) = saved.store := by
  simp only [outcome, after, perform, h]
  exact ⟨rfl, rfl⟩

/-- An entity with a key is put by the same edit in all stores of a schema, or the key writes a number
that leaves no room in any of them. -/
theorem acts_put_of_supplies {e : Entity} {t : EntityType} {key : String}
    (ht : schema.resolve e.typeName = .ok t) (he : e.Supplies e.typeName key) :
    Acts schema (.put e) := by
  by_cases hroom : ∀ n ∈ (KeyCounter.number? key).toList, n.toNat < 2 ^ 64 - 2
  · have hedits : ∀ s : Store, s.schema = schema → s.outcome (.put e) = .ok (some (key, e)) ∧
        Edited (s.after (.put e)) s t.partition key (some e.persisted)
          (KeyCounter.number? key).toList := by
      rintro s rfl
      obtain ⟨saved, hput⟩ := exists_put ht he hroom
      obtain ⟨rfl, rfl, hedited⟩ := (put_eq_ok_iff_edited ht he).mp hput
      obtain ⟨houtcome, hafter⟩ := outcome_put_ok hput
      rw [hafter]
      exact ⟨houtcome, hedited⟩
    exact .edits (.put ht he.key) (fun hremoval => Bool.noConfusion hremoval) hedits
  · have hlarge : ∃ n, KeyCounter.number? key = some n ∧ 2 ^ 64 - 2 ≤ n.toNat := by
      simpa using hroom
    obtain ⟨n, hnumber, hlarge⟩ := hlarge
    refine .refused (.invalidRecord (.keyTooLarge key)) ?_
    rintro s rfl
    have hclaim : claimKey s.counter key = .error (.invalidRecord (.keyTooLarge key)) :=
      claimKey_eq_error_iff.mpr ⟨n, hnumber, hlarge, rfl⟩
    exact outcome_put_error (put_eq_error_iff.mpr
      (.inr ⟨t, ht, assignKey_eq_error_iff.mpr (.inr ⟨key, he.key, hclaim⟩)⟩))

theorem acts_put {e : Entity} (h : e.key ≠ .ok none) : Acts schema (.put e) := by
  cases ht : schema.resolve e.typeName with
  | error cause =>
    refine .refused cause ?_
    rintro s rfl
    exact outcome_put_error (put_eq_error_iff.mpr (.inl ht))
  | ok t =>
    cases hkey : e.key with
    | error cause =>
      refine .refused cause ?_
      rintro s rfl
      exact outcome_put_error
        (put_eq_error_iff.mpr (.inr ⟨t, ht, assignKey_eq_error_iff.mpr (.inl hkey)⟩))
    | ok found =>
      cases found with
      | none => exact absurd hkey h
      | some key => exact acts_put_of_supplies ht ⟨rfl, hkey⟩

/-- What removes the same key of all stores of a schema is refused by all of them or edits them. -/
theorem acts_removal {typeName key : String} (hremoval : op.isRemoval = true)
    (hperform : ∀ s : Store, s.perform op = s.remove typeName key)
    (haddress : ∀ t, schema.resolve typeName = .ok t → op.Addresses schema t.partition key) :
    Acts schema op := by
  have houtcome : ∀ s : Store, s.outcome op = (s.remove typeName key).map fun _ => none := by
    intro s
    rw [← hperform]
    cases op with
    | put e => cases hremoval
    | _ => rfl
  cases ht : schema.resolve typeName with
  | error cause =>
    refine .refused cause ?_
    rintro s rfl
    have hrefused : s.remove typeName key = .error cause := remove_eq_error_iff.mpr ht
    rw [houtcome, after, hperform, hrefused]
    exact ⟨rfl, rfl⟩
  | ok t =>
    have hedits : ∀ s : Store, s.schema = schema →
        s.outcome op = .ok none ∧ Edited (s.after op) s t.partition key none [] := by
      rintro s rfl
      obtain ⟨without, hremove⟩ := exists_remove ht key
      rw [houtcome, after, hperform, hremove]
      exact ⟨rfl, edited_of_remove ht hremove⟩
    exact .edits (haddress t ht) (fun _ => rfl) hedits

/-- An operation that is given its key is refused by all stores of a schema or makes the same edit in
all of them. -/
theorem acts_of_namesKey (h : op.NamesKey) (schema : Schema) : Acts schema op := by
  cases h with
  | put h => exact acts_put h
  | remove typeName key => exact acts_removal rfl (fun _ => rfl) fun t ht => .remove ht key
  | @removeEntity e h =>
    cases hkey : e.key with
    | error cause =>
      refine .refused cause fun s _ => ?_
      simp only [outcome, after, perform, removeEntity, hkey]
      exact ⟨rfl, rfl⟩
    | ok found =>
      cases found with
      | none => exact absurd hkey h
      | some key =>
        have he : e.Supplies e.typeName key := ⟨rfl, hkey⟩
        exact acts_removal rfl (fun s => removeEntity_of_supplies he) fun t ht =>
          .removeEntity ht hkey

/-- Where one of two operations is refused they leave the same store in either order. -/
theorem run_comm_of_refused {cause : Error}
    (h : ∀ s : Store, s.schema = schema → s.outcome op = .error cause ∧ s.after op = s)
    (hs : s.schema = schema) (op' : Operation) : s.run [op, op'] = s.run [op', op] := by
  have hs' : (s.after op').schema = schema := (schema_after s op').trans hs
  show (s.after op).after op' = (s.after op').after op
  rw [(h s hs).2, (h _ hs').2]

end Acts

/-- Two operations that are given their keys, and are about different ones, commute.  Each has the same
outcome before the other and after it, and in either order the counter and all that can be looked up
come out the same.  If they are about two partitions, or one of them is a removal, so does the order of
visiting, and with it the store. -/
theorem apart_operations_commute {s : Store} {op op' : Operation} (hop : op.NamesKey)
    (hop' : op'.NamesKey) (hapart : op.Apart s.schema op') :
    (s.after op').outcome op = s.outcome op ∧ (s.after op).outcome op' = s.outcome op' ∧
    (s.run [op, op']).counter = (s.run [op', op]).counter ∧
    (∀ name key, ((s.run [op, op']).partition name).get? key =
      ((s.run [op', op]).partition name).get? key) ∧
    (op.InOtherPartitions s.schema op' ∨ op.isRemoval = true ∨ op'.isRemoval = true →
      s.run [op, op'] = s.run [op', op]) := by
  have hacts := acts_of_namesKey hop s.schema
  have hacts' := acts_of_namesKey hop' s.schema
  refine ⟨hacts.outcome_eq (schema_after s op') rfl, hacts'.outcome_eq (schema_after s op) rfl, ?_⟩
  cases hacts with
  | refused _ h =>
    rw [run_comm_of_refused h rfl op']
    exact ⟨rfl, fun _ _ => rfl, fun _ => rfl⟩
  | @edits name key change numbers _ haddress hremoval h =>
    cases hacts' with
    | refused _ h' =>
      rw [run_comm_of_refused h' rfl op]
      exact ⟨rfl, fun _ _ => rfl, fun _ => rfl⟩
    | @edits name' key' change' numbers' _ haddress' hremoval' h' =>
      have h₁ := (h s rfl).2
      have h₁' := (h' (s.after op) (schema_after s op)).2
      have h₂ := (h' s rfl).2
      have h₂' := (h (s.after op') (schema_after s op')).2
      have hne : ¬ (name = name' ∧ key = key') := by
        rintro ⟨rfl, rfl⟩
        exact hapart name key haddress haddress'
      refine ⟨Edited.counter_comm h₁ h₁' h₂ h₂', Edited.get?_comm h₁ h₁' h₂ h₂' hne, ?_⟩
      intro hplaces
      refine Edited.comm h₁ h₁' h₂ h₂' hne ?_
      rcases hplaces with hother | hfirst | hsecond
      · refine .inl ?_
        rintro rfl
        exact hother name key key' haddress haddress'
      · exact .inr (.inl (hremoval hfirst))
      · exact .inr (.inr (hremoval' hsecond))

/-- Labels, which are kept in the partition of the tags. -/
def label : EntityType := .keyed "Label" "tags" "name"

theorem label_valid : label.Valid := by decide

/-- A tag and a label in one partition. -/
def tagAndLabel : Store :=
  (empty (Catalog.builtIn.add label label_valid)).setPartition "tags"
    ((Partition.empty.insert "a" .empty).insert "b" .empty)

/-- A label whose key is a number. -/
def seven : Entity := .ofType label (Record.empty.insert "name" (.text "7"))

theorem nine_commutes_with_seven_and_removal :
    Operation.Apart tagAndLabel.schema (.put nine) (.put seven) ∧
    Operation.Apart tagAndLabel.schema (.put nine) (.remove "Label" "a") ∧
    (∀ name key, ((tagAndLabel.run [.put nine, .put seven]).partition name).get? key =
      ((tagAndLabel.run [.put seven, .put nine]).partition name).get? key) ∧
    ((tagAndLabel.run [.put nine, .put seven]).partition "tags").keys = ["a", "b", "9", "7"] ∧
    ((tagAndLabel.run [.put seven, .put nine]).partition "tags").keys = ["a", "b", "7", "9"] ∧
    tagAndLabel.run [.put nine, .remove "Label" "a"] =
      tagAndLabel.run [.remove "Label" "a", .put nine] := by
  have hnine : Operation.Addresses tagAndLabel.schema (.put nine) "tags" "9" :=
    .put (t := Catalog.tag) rfl rfl
  have hseven : Operation.Addresses tagAndLabel.schema (.put seven) "tags" "7" :=
    .put (t := label) rfl rfl
  have hremove : Operation.Addresses tagAndLabel.schema (.remove "Label" "a") "tags" "a" :=
    .remove (t := label) rfl "a"
  have hputs := hnine.apart hseven (by decide)
  have hremoval := hnine.apart hremove (by decide)
  have hkeyed : nine.Supplies "Tag" "9" := ⟨rfl, rfl⟩
  have hkeyed' : seven.Supplies "Label" "7" := ⟨rfl, rfl⟩
  obtain ⟨-, -, -, hlookups, -⟩ := apart_operations_commute hkeyed.namesKey hkeyed'.namesKey hputs
  obtain ⟨-, -, -, -, hsame⟩ :=
    apart_operations_commute hkeyed.namesKey (.remove "Label" "a") hremoval
  exact ⟨hputs, hremoval, hlookups, by decide, by decide, hsame (.inr (.inr rfl))⟩

end Store

end RecordStore
