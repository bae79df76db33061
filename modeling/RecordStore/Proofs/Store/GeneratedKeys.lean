/-
# RecordStore.Proofs.Store.GeneratedKeys — generated keys are new and increase.

One counter serves all partitions of a store.  The invariant of a run is that the counter outpaces
its history: every key that was ever written, in any partition, by a caller, by the counter or from
a dataset, is either no number at all or a number below the counter (`Outpaces`).  Removing a record
or resetting the store does not take the counter back, so this holds also of keys that are gone.

A generated key writes the counter itself, so no earlier key can be equal to it.  The counter is a
word of 64 bits and wraps when a key is generated at the largest word; runs in which that happens
are left out (`NeverExhausted`).
-/
import RecordStore.Proofs.Store.History

namespace RecordStore

open History

namespace History

/-- The history has a write under a key, in some partition. -/
def Wrote (h : List Effect) (key : String) : Prop := ∃ i name r, WritesAt h i name key r

/-- Every number that a key of the history writes is below the counter. -/
def Outpaces (counter : KeyCounter) (h : List Effect) : Prop :=
  ∀ key number, Wrote h key → KeyCounter.number? key = some number → number < counter.next

end History

namespace Store

/-! ## Generated keys of a run -/

/-- The key that an operation generates: the one given to an entity that had none. -/
inductive Generates (s : Store) : Operation → String → Prop where
  | put {e : Entity} {saved : Saved} (hkey : e.key = .ok none) (h : s.put e = .ok saved) :
      Generates s (.put e) saved.key

theorem generates_of_map_key {s : Store} {e : Entity} {key : String} (hkey : e.key = .ok none)
    (h : (s.put e).map Saved.key = .ok key) : Generates s (.put e) key := by
  cases hput : s.put e with
  | error cause =>
    rw [hput] at h
    cases h
  | ok saved =>
    rw [hput] at h
    obtain rfl : saved.key = key := Except.ok.inj h
    exact .put hkey hput

/-- A run generates a key with its operation at place `i`. -/
def GeneratesAt (s : Store) (ops : List Operation) (i : Nat) (key : String) : Prop :=
  ∃ op, ops[i]? = some op ∧ Generates (s.run (ops.take i)) op key

/-- No key is generated while the counter stands at the largest word. -/
def NeverExhausted (s : Store) (ops : List Operation) : Prop :=
  ∀ i key, GeneratesAt s ops i key → (s.run (ops.take i)).counter.next.toNat ≠ 2 ^ 64 - 1

theorem NeverExhausted.tail {s : Store} {op : Operation} {ops : List Operation}
    (h : NeverExhausted s (op :: ops)) : NeverExhausted (s.after op) ops :=
  fun i key hkey => h (i + 1) key hkey

theorem NeverExhausted.take {s : Store} {ops : List Operation} (h : NeverExhausted s ops)
    (n : Nat) : NeverExhausted s (ops.take n) := by
  rintro i key ⟨op, hop, hkey⟩
  rw [List.getElem?_take] at hop
  split at hop
  · rename_i hi
    rw [List.take_take, Nat.min_eq_left (Nat.le_of_lt hi)] at hkey ⊢
    exact h i key ⟨op, hop, hkey⟩
  · cases hop

/-- A run in which the counter never stands at the largest word does not exhaust it. -/
theorem neverExhausted_of_forall_ne {s : Store} {ops : List Operation}
    (h : ∀ i < ops.length, (s.run (ops.take i)).counter.next.toNat ≠ 2 ^ 64 - 1) :
    NeverExhausted s ops := by
  rintro i key ⟨op, hop, _⟩
  exact h i (List.getElem?_eq_some_iff.mp hop).1

/-! ## The counter outpaces the history -/

/-- The counter does not go back and ends above the key that an entity is stored under. -/
theorem counter_of_assignKey {counter counter' : KeyCounter} {e e' : Entity} {key : String}
    (h : assignKey counter e = .ok (key, e', counter'))
    (hlimit : e.key = .ok none → counter.next.toNat ≠ 2 ^ 64 - 1) :
    counter.next ≤ counter'.next ∧
      ∀ number, KeyCounter.number? key = some number → number < counter'.next := by
  rcases assignKey_eq_ok_iff.mp h with ⟨_, _, hclaim⟩ | ⟨hkey, rfl, _, rfl⟩
  · rcases claimKey_eq_ok_iff.mp hclaim with ⟨hnone, rfl⟩ | ⟨number, hnumber, hpast⟩
    · refine ⟨UInt64.le_refl _, ?_⟩
      intro number hnumber
      rw [hnone] at hnumber
      cases hnumber
    · have hnext := KeyCounter.toNat_next_of_advancePast? hpast
      refine ⟨?_, ?_⟩
      · rw [UInt64.le_iff_toNat_le]
        omega
      · intro other hother
        obtain rfl : number = other := Option.some.inj (hnumber.symm.trans hother)
        rw [UInt64.lt_iff_toNat_lt]
        omega
  · -- below the largest word the counter has room for one more step
    have hroom : counter.next.toNat + 1 < 2 ^ 64 := by
      have := counter.next.toNat_lt
      have := hlimit hkey
      omega
    have hnext := KeyCounter.toNat_next_issue hroom
    refine ⟨?_, ?_⟩
    · rw [UInt64.le_iff_toNat_le]
      omega
    · intro number hnumber
      obtain rfl : counter.next = number :=
        Option.some.inj ((KeyCounter.number?_issue counter).symm.trans hnumber)
      rw [UInt64.lt_iff_toNat_lt]
      omega

/-- The counter does not go back and ends above every key of a dataset. -/
theorem counter_of_claimKeys {counter counter' : KeyCounter} {d : Dataset}
    (h : claimKeys counter d = .ok counter') :
    counter.next ≤ counter'.next ∧ ∀ name key r number, d.get? name key = some r →
      KeyCounter.number? key = some number → number < counter'.next := by
  rcases claimKeys_eq_ok_iff.mp h with ⟨hnone, rfl⟩ | ⟨largest, hlargest, hpast⟩
  · refine ⟨UInt64.le_refl _, ?_⟩
    intro name key r number hr hnumber
    obtain ⟨largest, hlargest, _⟩ := Dataset.le_largestKey? hr hnumber
    rw [hnone] at hlargest
    cases hlargest
  · have hnext := KeyCounter.toNat_next_of_advancePast? hpast
    refine ⟨?_, ?_⟩
    · rw [UInt64.le_iff_toNat_le]
      omega
    · intro name key r number hr hnumber
      obtain ⟨other, hother, hle⟩ := Dataset.le_largestKey? hr hnumber
      obtain rfl : largest = other := Option.some.inj (hlargest.symm.trans hother)
      rw [UInt64.le_iff_toNat_le] at hle
      rw [UInt64.lt_iff_toNat_lt]
      omega

/-- Loading does not take the counter back, and takes it above every key of the dataset. -/
theorem counter_of_load {s s' : Store} {d : Dataset} (h : s.load d = .ok s') :
    s.counter.next ≤ s'.counter.next ∧ ∀ name key r number, d.get? name key = some r →
      KeyCounter.number? key = some number → number < s'.counter.next := by
  obtain ⟨_, counter, hclaim, rfl⟩ := load_eq_ok_iff.mp h
  rw [counter_withRecords]
  exact counter_of_claimKeys hclaim

/-- One operation does not take the counter back, and takes it above every key that it writes. -/
theorem counter_after {s : Store} {op : Operation}
    (hlimit : ∀ key, Generates s op key → s.counter.next.toNat ≠ 2 ^ 64 - 1) :
    s.counter.next ≤ (s.after op).counter.next ∧ ∀ name key r number, Writes s op name key r →
      KeyCounter.number? key = some number → number < (s.after op).counter.next := by
  unfold after
  split
  · rename_i s' h
    cases op with
    | put e =>
      obtain ⟨saved, hput, rfl⟩ := perform_put_eq_ok_iff.mp h
      obtain ⟨t, counter, ht, hassign, hstore⟩ := put_eq_ok_iff.mp hput
      have hcounter : saved.store.counter = counter := by
        rw [hstore, counter_setPartition]
      obtain ⟨hle, hlt⟩ := counter_of_assignKey hassign fun hkey => hlimit _ (.put hkey hput)
      rw [hcounter]
      refine ⟨hle, ?_⟩
      intro name key r number hw hnumber
      obtain ⟨_, rfl, _⟩ := (writes_put_iff ht hput).mp hw
      exact hlt number hnumber
    | remove typeName key =>
      rw [counter_of_remove h]
      exact ⟨UInt64.le_refl _, fun _ _ _ _ hw => nomatch hw⟩
    | removeEntity e =>
      have hsame : s'.counter = s.counter := by
        rcases removeEntity_eq_ok_iff.mp h with ⟨_, _, hremove⟩ | ⟨_, _, rfl⟩
        · exact counter_of_remove hremove
        · rfl
      rw [hsame]
      exact ⟨UInt64.le_refl _, fun _ _ _ _ hw => nomatch hw⟩
    | load d =>
      obtain ⟨hle, hlt⟩ := counter_of_load h
      refine ⟨hle, ?_⟩
      intro name key r number hw hnumber
      obtain ⟨_, given, _, hgiven, _⟩ := (writes_load_iff h).mp hw
      exact hlt name key given number hgiven hnumber
    | reset d =>
      -- clearing the partitions does not touch the counter
      obtain ⟨hle, hlt⟩ := counter_of_load (s := s.cleared) h
      refine ⟨hle, ?_⟩
      intro name key r number hw hnumber
      obtain ⟨_, given, _, hgiven, _⟩ := (writes_reset_iff h).mp hw
      exact hlt name key given number hgiven hnumber
  · rename_i cause h
    refine ⟨UInt64.le_refl _, ?_⟩
    intro name key r number hw _
    obtain ⟨s', h'⟩ := perform_of_writes hw
    cases h.symm.trans h'

theorem outpaces_concat {s : Store} {op : Operation} {h : List Effect}
    (hs : Outpaces s.counter h)
    (hlimit : ∀ key, Generates s op key → s.counter.next.toNat ≠ 2 ^ 64 - 1) :
    Outpaces (s.after op).counter (h ++ [effect s op]) := by
  obtain ⟨hle, hlt⟩ := counter_after hlimit
  rintro key number ⟨i, name, r, hw⟩ hnumber
  rcases writesAt_concat.mp hw with hw | ⟨_, hw⟩
  · exact UInt64.lt_of_lt_of_le (hs key number ⟨i, name, r, hw⟩ hnumber) hle
  · exact hlt name key r number hw hnumber

/-- Along a run that never exhausts the counter, the counter keeps outpacing the history. -/
theorem outpaces_run (ops : List Operation) {s : Store} {h : List Effect}
    (hs : Outpaces s.counter h) (hnever : NeverExhausted s ops) :
    Outpaces (s.run ops).counter (h ++ history s ops) := by
  induction ops generalizing s h with
  | nil =>
    rw [history, List.append_nil]
    exact hs
  | cons op ops ih =>
    have hstep : Outpaces (s.after op).counter (h ++ [effect s op]) :=
      outpaces_concat hs fun key hkey => hnever 0 key ⟨op, rfl, hkey⟩
    have hrun := ih hstep hnever.tail
    rw [List.append_assoc] at hrun
    exact hrun

/-! ## Generated keys are new -/

/-- A generated key writes the counter as it was, and the operation writes a record under it. -/
theorem eq_text_of_generates {s : Store} {op : Operation} {key : String}
    (h : Generates s op key) :
    key = Number.Decimal.text s.counter.next.toNat ∧ ∃ name r, Writes s op name key r := by
  cases h with
  | put hkey hput =>
    obtain ⟨t, counter, ht, hassign, _⟩ := put_eq_ok_iff.mp hput
    refine ⟨?_, t.partition, _, .put ht hput⟩
    rcases assignKey_eq_ok_iff.mp hassign with ⟨hown, _⟩ | ⟨_, hissued, _⟩
    · cases hkey.symm.trans hown
    · exact hissued

theorem number?_of_generates {s : Store} {op : Operation} {key : String}
    (h : Generates s op key) : KeyCounter.number? key = some s.counter.next := by
  rw [(eq_text_of_generates h).1]
  exact KeyCounter.number?_issue s.counter

/-- A key that a run has generated is in the history of every longer part of the run. -/
theorem wrote_of_generatesAt {s : Store} {ops : List Operation} {i j : Nat} {key : String}
    (h : GeneratesAt s ops i key) (hij : i < j) : Wrote (history s (ops.take j)) key := by
  obtain ⟨op, hop, hkey⟩ := h
  obtain ⟨_, name, r, hw⟩ := eq_text_of_generates hkey
  refine ⟨i, name, r, effect (s.run (ops.take i)) op, ?_, hw⟩
  rw [getElem?_history, List.getElem?_take, if_pos hij, hop, List.take_take,
    Nat.min_eq_left (Nat.le_of_lt hij)]
  rfl

/-- In a run from the store without records in which no key is generated at the largest word, the
numbers of the generated keys increase.  Each generated key differs from all keys written before it
in any partition, also from those that are gone, and so it takes the place of no record. -/
theorem generated_keys_are_new (schema : Schema) (ops : List Operation)
    (hnever : NeverExhausted (empty schema) ops) :
    (∀ i j first second, i < j → GeneratesAt (empty schema) ops i first →
      GeneratesAt (empty schema) ops j second →
      ∃ m n : UInt64, first = Number.Decimal.text m.toNat ∧
        second = Number.Decimal.text n.toNat ∧ m < n) ∧
    ∀ i key, GeneratesAt (empty schema) ops i key →
      ¬ Wrote (history (empty schema) (ops.take i)) key ∧
      ∀ name, (((empty schema).run (ops.take i)).partition name).get? key = none := by
  have hstart : Outpaces (empty schema).counter [] := by
    rintro key number ⟨i, name, r, hw⟩
    exact absurd (lt_length_of_writesAt hw) (Nat.not_lt_zero i)
  have houtpaces : ∀ i, Outpaces ((empty schema).run (ops.take i)).counter
      (history (empty schema) (ops.take i)) := by
    intro i
    exact outpaces_run (ops.take i) hstart (hnever.take i)
  have hnew : ∀ i key, GeneratesAt (empty schema) ops i key →
      ¬ Wrote (history (empty schema) (ops.take i)) key := by
    rintro i key ⟨op, _, hkey⟩ hwrote
    exact UInt64.lt_irrefl _ (houtpaces i key _ hwrote (number?_of_generates hkey))
  refine ⟨?increasing, ?new⟩
  case increasing =>
    intro i j first second hij hfirst hsecond
    -- the first key is in the history by then, and so below the counter that the second one writes
    have hwrote : Wrote (history (empty schema) (ops.take j)) first :=
      wrote_of_generatesAt hfirst hij
    obtain ⟨_, _, hfirst⟩ := hfirst
    obtain ⟨_, _, hsecond⟩ := hsecond
    exact ⟨_, _, (eq_text_of_generates hfirst).1, (eq_text_of_generates hsecond).1,
      houtpaces j first _ hwrote (number?_of_generates hfirst)⟩
  case new =>
    intro i key hkey
    refine ⟨hnew i key hkey, ?_⟩
    intro name
    -- a record under the key would have been written by some earlier operation
    have hdescribes := describes_run (ops.take i) (describes_empty schema name)
    apply Option.eq_none_iff_forall_ne_some.mpr
    intro r hr
    obtain ⟨place, hw, _⟩ := (hdescribes.lookup key r).mp hr
    exact hnew i key hkey ⟨place, name, r, hw⟩

/-- A key with a plus sign, a dataset key with leading zeros, and two entities without keys. -/
def keyArrivals : List Operation :=
  [.put (.ofType Catalog.tag (Record.empty.insert "value" (.text "+5"))),
    .load (Dataset.empty.insert "tags" "007" .empty),
    .put (.ofType Catalog.tag .empty),
    .remove "Tag" "8",
    .put (.ofType Catalog.tag .empty)]

theorem keyArrivals_generate_new_keys :
    NeverExhausted (empty Catalog.builtIn) keyArrivals ∧
    GeneratesAt (empty Catalog.builtIn) keyArrivals 2 "8" ∧
    GeneratesAt (empty Catalog.builtIn) keyArrivals 4 "9" ∧
    (∃ m n : UInt64, "8" = Number.Decimal.text m.toNat ∧ "9" = Number.Decimal.text n.toNat ∧
      m < n) ∧
    ¬ Wrote (history (empty Catalog.builtIn) (keyArrivals.take 4)) "9" ∧
    ∀ name, (((empty Catalog.builtIn).run (keyArrivals.take 4)).partition name).get? "9" =
      none := by
  have hbelow : ∀ i < 5, ((empty Catalog.builtIn).run (keyArrivals.take i)).counter.next.toNat ≠
      2 ^ 64 - 1 := by decide
  have hnever : NeverExhausted (empty Catalog.builtIn) keyArrivals := by
    rintro i key ⟨op, hop, _⟩
    exact hbelow i (List.getElem?_eq_some_iff.mp hop).1
  have height : GeneratesAt (empty Catalog.builtIn) keyArrivals 2 "8" :=
    ⟨_, rfl, generates_of_map_key rfl rfl⟩
  have hnine : GeneratesAt (empty Catalog.builtIn) keyArrivals 4 "9" :=
    ⟨_, rfl, generates_of_map_key rfl rfl⟩
  obtain ⟨hincrease, hnew⟩ := generated_keys_are_new Catalog.builtIn keyArrivals hnever
  exact ⟨hnever, height, hnine, hincrease 2 4 "8" "9" (by decide) height hnine,
    hnew 4 "9" hnine⟩

end Store

end RecordStore
