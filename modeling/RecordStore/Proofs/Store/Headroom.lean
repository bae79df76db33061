/-
# RecordStore.Proofs.Store.Headroom — a counter that can always be stepped.

The counter of generated keys has headroom while it is below the largest word.  Moving it past a key
that a caller has used keeps the headroom: such a key is refused when it leaves no room.  Issuing a
key does not ask, and at the last number below the limit it takes the headroom away.  Nothing else
moves the counter (`counter_after_cases`), so a run keeps its headroom exactly if it issues no key
there (`headroom_run_iff`).

The same number is the first that a caller may not use as a key.  So the runs that keep their headroom
are also those whose generated keys can all be put again, and those whose datasets can all be loaded
(`headroom_kept_iff`).  A run that generates a key behind the largest key that a caller may use
does not (`headroom_lost_behind_largest_key`).
-/
import RecordStore.Proofs.Store.ClaimedKeys
import RecordStore.Proofs.Store.Reload
import RecordStore.Proofs.Store.Shape

namespace RecordStore

/-- Along a fold, what one step keeps unless it breaks it holds from beginning to end exactly if no
step breaks it. -/
theorem forall_foldl_take_iff {σ α : Type} {step : σ → α → σ} (kept : σ → Prop)
    {breaks : σ → α → Prop} {s : σ} (hs : kept s)
    (hstep : ∀ s a, kept s → (kept (step s a) ↔ ¬ breaks s a)) (l : List α) :
    (∀ j, kept ((l.take j).foldl step s)) ↔
      ∀ i a, l[i]? = some a → ¬ breaks ((l.take i).foldl step s) a := by
  have hnext : ∀ i a, l[i]? = some a →
      (l.take (i + 1)).foldl step s = step ((l.take i).foldl step s) a := by
    intro i a ha
    rw [List.take_add_one, ha, Option.toList_some, List.foldl_append]
    rfl
  constructor
  · intro hkept i a ha
    rw [← hstep _ a (hkept i), ← hnext i a ha]
    exact hkept (i + 1)
  · intro hnone j
    induction j with
    | zero => exact hs
    | succ i ih =>
      cases ha : l[i]? with
      | none =>
        -- the list has ended before
        rw [List.take_add_one, ha, Option.toList_none, List.append_nil]
        exact ih
      | some a =>
        rw [hnext i a ha, hstep _ a ih]
        exact hnone i a ha

namespace KeyCounter

variable {c d : KeyCounter}

/-- The counter is below the largest word, so that it can be stepped. -/
def HasHeadroom (c : KeyCounter) : Prop := c.next.toNat < 2 ^ 64 - 1

instance (c : KeyCounter) : Decidable c.HasHeadroom := inferInstanceAs (Decidable (_ < _))

/-- The counter is at the last number below the largest word. -/
def AtLimit (c : KeyCounter) : Prop := c.next.toNat = 2 ^ 64 - 2

theorem hasHeadroom_iff_steps : c.HasHeadroom ↔ c.issue.2.next.toNat = c.next.toNat + 1 := by
  unfold HasHeadroom
  constructor
  · intro h
    exact toNat_next_issue (by omega)
  · intro h
    have hword := c.issue.2.next.toNat_lt
    omega

theorem hasHeadroom_issue_iff (h : c.HasHeadroom) : c.issue.2.HasHeadroom ↔ ¬ c.AtLimit := by
  have hstep := hasHeadroom_iff_steps.mp h
  unfold HasHeadroom AtLimit at *
  omega

/-- A counter that is moved past keys in use keeps its headroom. -/
theorem MovedPast.hasHeadroom {numbers : List UInt64} (hd : MovedPast c numbers d)
    (h : c.HasHeadroom) : d.HasHeadroom := by
  unfold HasHeadroom at *
  have hnext : d.next.toNat ≤ 2 ^ 64 - 2 := by
    refine (hd.least _).mpr ⟨by omega, ?_⟩
    intro n hn
    have hroom := hd.room n hn
    omega
  omega

/-! ## Calls of one counter -/

/-- What a counter may be asked. -/
inductive Call where
  | issue
  | advancePast (key : UInt64)

/-- The counter after a call, which is the same counter when it cannot be moved past a key. -/
def after (c : KeyCounter) : Call → KeyCounter
  | .issue => c.issue.2
  | .advancePast key => (c.advancePast? key).getD c

/-- The counter after calls. -/
def run (c : KeyCounter) (calls : List Call) : KeyCounter := calls.foldl after c

theorem hasHeadroom_after_iff {call : Call} (h : c.HasHeadroom) :
    (c.after call).HasHeadroom ↔ ¬ (call = .issue ∧ c.AtLimit) := by
  cases call with
  | issue =>
    show c.issue.2.HasHeadroom ↔ _
    rw [hasHeadroom_issue_iff h, and_iff_right rfl]
  | advancePast key =>
    show ((c.advancePast? key).getD c).HasHeadroom ↔ _
    refine iff_of_true ?_ nofun
    cases hpast : c.advancePast? key with
    | none => exact h
    | some d => exact (movedPast_singleton_iff.mpr hpast).hasHeadroom h

/-- A counter keeps its headroom from call to call exactly if no key is issued at the limit. -/
theorem headroom_run_iff (hc : c.HasHeadroom) (calls : List Call) :
    (∀ j, (c.run (calls.take j)).HasHeadroom) ↔
      ∀ i, calls[i]? = some .issue → ¬ (c.run (calls.take i)).AtLimit := by
  refine (forall_foldl_take_iff HasHeadroom hc (fun _ _ => hasHeadroom_after_iff) calls).trans ?_
  constructor
  · intro h i hi hlimit
    exact h i .issue hi ⟨rfl, hlimit⟩
  · rintro h i call hi ⟨rfl, hlimit⟩
    exact h i hi hlimit

end KeyCounter

namespace Store

open KeyCounter

variable {schema : Schema} {s s' : Store} {ops : List Operation}

/-! ## What an operation does to the counter -/

/-- An operation issues one key, which it generates, or it moves the counter past the keys that it
brings. -/
theorem counter_after_cases (s : Store) (op : Operation) :
    ((∃ key, Generates s op key) ∧ (s.after op).counter = s.counter.issue.2) ∨
    ((∀ key, ¬ Generates s op key) ∧ ∃ numbers, MovedPast s.counter numbers (s.after op).counter) := by
  have hunmoved : ∃ numbers, MovedPast s.counter numbers s.counter :=
    ⟨[], movedPast_nil_iff.mpr rfl⟩
  unfold after
  split
  · next s' h =>
    cases op with
    | put e =>
      obtain ⟨saved, hput, rfl⟩ := perform_put_eq_ok_iff.mp h
      obtain ⟨t, counter, _, hassign, hstore⟩ := put_eq_ok_iff.mp hput
      rw [hstore, counter_setPartition]
      rcases assignKey_eq_ok_iff.mp hassign with ⟨hkey, _, hclaim⟩ | ⟨hkey, _, _, hissue⟩
      · refine .inr ⟨?_, _, claimKey_eq_ok_iff_movedPast.mp hclaim⟩
        rintro key ⟨hnone, _⟩
        cases hkey.symm.trans hnone
      · exact .inl ⟨⟨_, .put hkey hput⟩, hissue⟩
    | remove typeName key =>
      rw [counter_of_remove h]
      exact .inr ⟨fun _ => nofun, hunmoved⟩
    | removeEntity e =>
      refine .inr ⟨fun _ => nofun, ?_⟩
      rcases removeEntity_eq_ok_iff.mp h with ⟨_, _, hremove⟩ | ⟨_, _, rfl⟩
      · rw [counter_of_remove hremove]
        exact hunmoved
      · exact hunmoved
    | load d =>
      obtain ⟨_, counter, hclaims, rfl⟩ := load_eq_ok_iff.mp h
      rw [counter_withRecords]
      exact .inr ⟨fun _ => nofun, _, claimKeys_eq_ok_iff_movedPast.mp hclaims⟩
    | reset d =>
      -- clearing the partitions does not touch the counter
      obtain ⟨_, counter, hclaims, rfl⟩ := (load_eq_ok_iff (s := s.cleared)).mp h
      rw [counter_withRecords]
      exact .inr ⟨fun _ => nofun, _, claimKeys_eq_ok_iff_movedPast.mp hclaims⟩
  · next cause h =>
    refine .inr ⟨?_, hunmoved⟩
    intro key hkey
    obtain ⟨_, _, _, hw⟩ := eq_text_of_generates hkey
    obtain ⟨s', h'⟩ := perform_of_writes hw
    cases h.symm.trans h'

theorem hasHeadroom_after_iff {op : Operation} (h : s.counter.HasHeadroom) :
    (s.after op).counter.HasHeadroom ↔ ¬ ((∃ key, Generates s op key) ∧ s.counter.AtLimit) := by
  rcases counter_after_cases s op with ⟨hkey, hissue⟩ | ⟨hnone, numbers, hpast⟩
  · rw [hissue, hasHeadroom_issue_iff h, and_iff_right hkey]
  · refine iff_of_true (hpast.hasHeadroom h) ?_
    rintro ⟨⟨key, hkey⟩, _⟩
    exact hnone key hkey

/-- A run from the store without records keeps its headroom exactly if it generates no key at the
limit. -/
theorem headroom_run_iff (schema : Schema) (ops : List Operation) :
    (∀ j, ((empty schema).run (ops.take j)).counter.HasHeadroom) ↔
      ∀ i key, GeneratesAt (empty schema) ops i key →
        ¬ ((empty schema).run (ops.take i)).counter.AtLimit := by
  have hstart : (empty schema).counter.HasHeadroom := by
    show zero.HasHeadroom
    decide
  refine (forall_foldl_take_iff (fun s : Store => s.counter.HasHeadroom) hstart
    (fun _ _ => hasHeadroom_after_iff) ops).trans ?_
  constructor
  · rintro h i key ⟨op, hop, hkey⟩ hlimit
    exact h i op hop ⟨⟨key, hkey⟩, hlimit⟩
  · rintro h i op hop ⟨⟨key, hkey⟩, hlimit⟩
    exact h i key ⟨op, hop, hkey⟩ hlimit

/-! ## Generated keys as keys of callers -/

theorem exists_claimKey_iff {c : KeyCounter} {key : String} {number : UInt64}
    (hnumber : KeyCounter.number? key = some number) :
    (∃ d, claimKey c key = .ok d) ↔ number.toNat < 2 ^ 64 - 2 := by
  simp only [claimKey_eq_ok_iff_movedPast, hnumber, Option.toList_some]
  constructor
  · rintro ⟨d, hd⟩
    exact hd.room number List.mem_cons_self
  · intro hroom
    exact exists_movedPast c (by simpa using hroom)

/-- An entity that was given a generated key can be put again, in any store of the same types, exactly
if the key was generated below the limit. -/
theorem exists_put_again_iff {e : Entity} {saved : Saved} (hkey : e.key = .ok none)
    (hput : s.put e = .ok saved) (hschema : s'.schema = s.schema) :
    (∃ again, s'.put saved.entity = .ok again ∧ again.key = saved.key) ↔
      s.counter.next.toNat < 2 ^ 64 - 2 := by
  have hnumber : KeyCounter.number? saved.key = some s.counter.next :=
    number?_of_generates (.put hkey hput)
  obtain ⟨t, counter, ht, hassign, _⟩ := put_eq_ok_iff.mp hput
  obtain ⟨hown, _⟩ | ⟨_, _, hentity, _⟩ := assignKey_eq_ok_iff.mp hassign
  · cases hkey.symm.trans hown
  have hheld : saved.entity.key = .ok (some saved.key) := by
    rw [hentity]
    exact e.key_setKey saved.key
  have hresolve : s'.schema.resolve saved.entity.typeName = .ok t := by
    rw [hschema, hentity]
    exact ht
  rw [← exists_claimKey_iff (c := s'.counter) hnumber]
  constructor
  · rintro ⟨again, hagain, hsame⟩
    obtain ⟨_, d, _, hassign, _⟩ := put_eq_ok_iff.mp hagain
    rcases assignKey_eq_ok_iff.mp hassign with ⟨_, _, hclaim⟩ | ⟨hnone, _⟩
    · exact ⟨d, hsame ▸ hclaim⟩
    · cases hheld.symm.trans hnone
  · rintro ⟨d, hclaim⟩
    have hassign : assignKey s'.counter saved.entity = .ok (saved.key, saved.entity, d) :=
      assignKey_eq_ok_iff.mpr (.inl ⟨hheld, rfl, hclaim⟩)
    have hagain : s'.put saved.entity = .ok ⟨saved.key, saved.entity,
        { s' with counter := d }.setPartition t.partition
          ((s'.partition t.partition).insert saved.key saved.entity.persisted)⟩ :=
      put_eq_ok_iff.mpr ⟨t, d, hresolve, hassign, rfl⟩
    exact ⟨_, hagain, rfl⟩

/-! ## Datasets with generated keys -/

theorem hasPartition_of_covers (hs : s.Covers) :
    ∀ name ∈ s.toDataset.partitions.names, s.schema.hasPartition name = true := by
  intro name hname
  obtain ⟨key, r, hr⟩ := mem_names_toDataset hname
  have hkept : s.partitions.contains name = true := by
    rw [NameMap.contains_iff]
    cases hp : s.partitions.get? name with
    | some p => exact ⟨p, rfl⟩
    | none =>
      rw [Store.partition, hp] at hr
      cases hr
  exact Schema.hasPartition_iff.mpr ((hs name).mp hkept)

/-- The dataset of a store that has room is loaded into any store of the same types, whatever that
holds. -/
theorem exists_load_toDataset (hs : s.Covers) (hroom : s.HasRoom) (hschema : s'.schema = s.schema) :
    ∃ loaded, s'.load s.toDataset = .ok loaded := by
  cases hclaims : claimKeys s'.counter s.toDataset with
  | ok counter =>
    refine ⟨_, load_eq_ok_iff.mpr ⟨?_, counter, hclaims, rfl⟩⟩
    rw [hschema]
    exact hasPartition_of_covers hs
  | error cause =>
    obtain ⟨largest, hlargest, hlarge, _⟩ := claimKeys_eq_error_iff.mp hclaims
    obtain ⟨name, key, r, hr, hnumber⟩ := Dataset.exists_of_largestKey? hlargest
    rw [get?_toDataset] at hr
    have hbelow := UInt64.lt_iff_toNat_lt.mp (hroom.below name key r largest hr hnumber)
    have hlimit := hroom.limit
    have hword := s.counter.next.toNat_lt
    omega

/-- No store loads the dataset of a store that has a record under a number at the limit. -/
theorem not_load_toDataset {name key : String} {r : Record} {number : UInt64}
    (hr : (s.partition name).get? key = some r) (hnumber : KeyCounter.number? key = some number)
    (hlarge : 2 ^ 64 - 2 ≤ number.toNat) : ¬ ∃ loaded, s'.load s.toDataset = .ok loaded := by
  rintro ⟨loaded, hload⟩
  obtain ⟨_, counter, hclaims, _⟩ := load_eq_ok_iff.mp hload
  rw [← get?_toDataset] at hr
  obtain ⟨largest, hlargest, hle⟩ := Dataset.le_largestKey? hr hnumber
  rw [UInt64.le_iff_toNat_le] at hle
  have hrefused : claimKeys s'.counter s.toDataset =
      .error (.invalidDataset (.keyTooLarge largest)) :=
    claimKeys_eq_error_iff.mpr ⟨largest, hlargest, by omega, rfl⟩
  cases hclaims.symm.trans hrefused

/-- A generated key is that of a record after the operation that has generated it. -/
theorem exists_get?_after_of_generates {op : Operation} {key : String} (h : Generates s op key) :
    ∃ name r, ((s.after op).partition name).get? key = some r := by
  cases h with
  | @put e saved hkey hput =>
    obtain ⟨t, counter, _, _, hstore⟩ := put_eq_ok_iff.mp hput
    refine ⟨t.partition, saved.entity.persisted, ?_⟩
    have hafter : s.after (.put e) = saved.store := by
      rw [after, perform_put_eq_ok_iff.mpr ⟨saved, hput, rfl⟩]
    rw [hafter, hstore, partition_setPartition, if_pos rfl, Partition.get?_insert, if_pos rfl]

/-! ## Runs that keep their headroom -/

/-- The counter of a store has headroom all along a run that starts without records. -/
def KeepsHeadroom (schema : Schema) (ops : List Operation) : Prop :=
  ∀ j, ((empty schema).run (ops.take j)).counter.HasHeadroom

theorem KeepsHeadroom.lt_of_generatesAt (h : KeepsHeadroom schema ops) {i : Nat} {key : String}
    (hkey : GeneratesAt (empty schema) ops i key) :
    ((empty schema).run (ops.take i)).counter.next.toNat < 2 ^ 64 - 2 := by
  have hbelow := h i
  have hlimit := (headroom_run_iff schema ops).mp h i key hkey
  unfold HasHeadroom at hbelow
  unfold AtLimit at hlimit
  omega

theorem KeepsHeadroom.hasRoom (h : KeepsHeadroom schema ops) (j : Nat) :
    ((empty schema).run (ops.take j)).HasRoom := by
  have hnever : NeverExhausted (empty schema) ops :=
    neverExhausted_of_forall_ne fun i _ => Nat.ne_of_lt (h i)
  refine ⟨?_, Nat.ne_of_lt (h j)⟩
  intro name key r number hr hnumber
  exact lt_counter_run (ops.take j) (hnever.take j) hr hnumber

/-- Every entity that a run has given a key can be put again under this key, in any store of the same
types. -/
def PutsAgain (schema : Schema) (ops : List Operation) : Prop :=
  ∀ i e saved, ops[i]? = some (.put e) → e.key = .ok none →
    ((empty schema).run (ops.take i)).put e = .ok saved →
    ∀ s' : Store, s'.schema = schema →
      ∃ again, s'.put saved.entity = .ok again ∧ again.key = saved.key

theorem keepsHeadroom_iff_putsAgain (schema : Schema) (ops : List Operation) :
    KeepsHeadroom schema ops ↔ PutsAgain schema ops := by
  constructor
  · intro h i e saved hop hkey hput s' hschema
    refine (exists_put_again_iff hkey hput ?_).mpr (h.lt_of_generatesAt ⟨_, hop, .put hkey hput⟩)
    rw [hschema]
    exact (schema_run (empty schema) (ops.take i)).symm
  · intro h
    refine (headroom_run_iff schema ops).mpr ?_
    rintro i key ⟨_, hop, hkey, hput⟩ hlimit
    have hschema := schema_run (empty schema) (ops.take i)
    have hroom := (exists_put_again_iff hkey hput rfl).mp (h i _ _ hop hkey hput _ hschema)
    exact Nat.ne_of_lt hroom hlimit

/-- The dataset of the store can be loaded at all times of a run, into any store of the same types. -/
def LoadsAgain (schema : Schema) (ops : List Operation) : Prop :=
  ∀ j (s' : Store), s'.schema = schema →
    ∃ loaded, s'.load ((empty schema).run (ops.take j)).toDataset = .ok loaded

theorem keepsHeadroom_iff_loadsAgain (schema : Schema) (ops : List Operation) :
    KeepsHeadroom schema ops ↔ LoadsAgain schema ops := by
  constructor
  · intro h j s' hschema
    refine exists_load_toDataset (covers_run (covers_empty schema) _) (h.hasRoom j) ?_
    rw [hschema]
    exact (schema_run (empty schema) (ops.take j)).symm
  · intro h
    refine (headroom_run_iff schema ops).mpr ?_
    rintro i key ⟨op, hop, hkey⟩ hlimit
    obtain ⟨name, r, hr⟩ := exists_get?_after_of_generates hkey
    have hafter : (empty schema).run (ops.take (i + 1)) =
        ((empty schema).run (ops.take i)).after op := by
      rw [List.take_add_one, hop, run, List.foldl_append]
      rfl
    have hlarge : 2 ^ 64 - 2 ≤ ((empty schema).run (ops.take i)).counter.next.toNat :=
      Nat.le_of_eq hlimit.symm
    rw [← hafter] at hr
    exact not_load_toDataset hr (number?_of_generates hkey) hlarge (h (i + 1) (empty schema) rfl)

/-- A counter can be stepped as long as it is below the largest word.  Calls of a new counter keep it
there exactly if none of them issues a key at the number before, and so do operations on a store that
starts without records.  Just these runs have all of their generated keys accepted when the entities
are put again, and all of their datasets when they are loaded. -/
theorem headroom_kept_iff (schema : Schema) (ops : List Operation) (calls : List Call) :
    (∀ c : KeyCounter, c.HasHeadroom ↔ c.issue.2.next.toNat = c.next.toNat + 1) ∧
    ((∀ j, (zero.run (calls.take j)).HasHeadroom) ↔
      ∀ i, calls[i]? = some .issue → ¬ (zero.run (calls.take i)).AtLimit) ∧
    (KeepsHeadroom schema ops ↔ ∀ i key, GeneratesAt (empty schema) ops i key →
      ¬ ((empty schema).run (ops.take i)).counter.AtLimit) ∧
    (KeepsHeadroom schema ops ↔ PutsAgain schema ops) ∧
    (KeepsHeadroom schema ops ↔ LoadsAgain schema ops) :=
  ⟨fun _ => hasHeadroom_iff_steps, KeyCounter.headroom_run_iff (by decide) calls,
    headroom_run_iff schema ops, keepsHeadroom_iff_putsAgain schema ops,
    keepsHeadroom_iff_loadsAgain schema ops⟩

/-- A tag whose key is the last number but three that a word can write, and one without a key. -/
def tagsBelowLimit : List Operation :=
  [.put (.ofType Catalog.tag (Record.empty.insert "value" (.text "18446744073709551612"))),
    .put (.ofType Catalog.tag .empty)]

theorem tagsBelowLimit_keep_headroom :
    GeneratesAt (empty Catalog.builtIn) tagsBelowLimit 1 "18446744073709551613" ∧
    KeepsHeadroom Catalog.builtIn tagsBelowLimit ∧ PutsAgain Catalog.builtIn tagsBelowLimit ∧
    LoadsAgain Catalog.builtIn tagsBelowLimit := by
  have hbelow : ∀ i < 2, ((empty Catalog.builtIn).run (tagsBelowLimit.take i)).counter.next.toNat ≠
      2 ^ 64 - 2 := by decide +kernel
  obtain ⟨_, _, hkept, hput, hload⟩ := headroom_kept_iff Catalog.builtIn tagsBelowLimit []
  have hkeeps : KeepsHeadroom Catalog.builtIn tagsBelowLimit := by
    refine hkept.mpr ?_
    rintro i key ⟨op, hop, _⟩
    exact hbelow i (List.getElem?_eq_some_iff.mp hop).1
  exact ⟨⟨_, rfl, generates_of_map_key rfl rfl⟩, hkeeps, hput.mp hkeeps, hload.mp hkeeps⟩

/-- A tag whose key is the largest that a caller may use, and one without a key. -/
def tagsAtLimit : List Operation :=
  [.put (.ofType Catalog.tag (Record.empty.insert "value" (.text "18446744073709551613"))),
    .put (.ofType Catalog.tag .empty)]

/-- The key that is generated behind the largest key that a caller may use takes the headroom away.
It is refused when the tag that it was given to is put again, and the dataset of the store cannot be
loaded. -/
theorem headroom_lost_behind_largest_key :
    ¬ (zero.run [.advancePast 18446744073709551613, .issue]).HasHeadroom ∧
    GeneratesAt (empty Catalog.builtIn) tagsAtLimit 1 "18446744073709551614" ∧
    ¬ ((empty Catalog.builtIn).run tagsAtLimit).counter.HasHeadroom ∧
    ((empty Catalog.builtIn).run tagsAtLimit).put (.ofType Catalog.tag
        (Record.empty.insert "value" (.text "18446744073709551614"))) =
      .error (.invalidRecord (.keyTooLarge "18446744073709551614")) ∧
    (empty Catalog.builtIn).load ((empty Catalog.builtIn).run tagsAtLimit).toDataset =
      .error (.invalidDataset (.keyTooLarge 18446744073709551614)) :=
  ⟨by decide, ⟨_, rfl, generates_of_map_key rfl rfl⟩, by decide +kernel, rfl, rfl⟩

end Store

end RecordStore
