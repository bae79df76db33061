/-
# RecordStore.Proofs.Store.InPlace — the operations as changes of one store in place.

The operations of a store give a new store when they succeed, and nothing when they are refused.
Whoever keeps one store and changes it step by step has more to lose: a refusal that comes after a
step finds what that step has done.  This file writes the operations as such steps, in the order in
which checks and changes take turns, and shows that each does what the operation does and that a
refusal finds nothing done (`refused_leaves_unchanged`).

Steps run in `EStateM`, in which a refusal keeps the state that the steps before it have made.
-/
import RecordStore.Proofs.Store.Laws

namespace RecordStore.InPlace

/-! ## Steps -/

/-- Steps that change one store. -/
abbrev Steps (α : Type) : Type := EStateM Error Store α

/-- A store and the entity that is being stored in it. -/
structure Workspace where
  store : Store
  entity : Entity

/-- Steps on the store of a workspace. -/
def onStore {α : Type} (x : Steps α) : EStateM Error Workspace α := fun w =>
  match x.run w.store with
  | .ok a s => .ok a { w with store := s }
  | .error cause s => .error cause { w with store := s }

/-- Looks a type up. -/
def resolve (typeName : String) : Steps EntityType := do
  let s ← get
  ofExcept (s.schema.resolve typeName)

/-- Moves the counter past a number and says whether there was room. -/
def advancePast (number : UInt64) : Steps Bool :=
  modifyGet fun s =>
    match s.counter.advancePast? number with
    | some counter => (true, { s with counter := counter })
    | none => (false, s)

/-- Takes the next generated key. -/
def issueKey : Steps String :=
  modifyGet fun s => (s.counter.issue.1, { s with counter := s.counter.issue.2 })

/-- Opens a partition, without records if there is none of its name. -/
def openPartition (name : String) : Steps Unit :=
  modify fun s => s.setPartition name (s.partition name)

/-- Inserts one record into a partition. -/
def insertRecord (name key : String) (r : Record) : Steps Unit :=
  modify fun s => s.setPartition name ((s.partition name).insert key r)

/-- Moves the counter past a number, if there is one, and is refused when there is no room. -/
def claim (number? : Option UInt64) (refusal : UInt64 → Error) : Steps Unit :=
  match number? with
  | none => pure ()
  | some number => do
    let room ← advancePast number
    if room then pure () else throw (refusal number)

/-! ## Single entities -/

/-- Uses the key that the entity has, or gives it a generated one. -/
def useKey : Option String → EStateM Error Workspace String
  | some key => do
    onStore (claim (KeyCounter.number? key) fun _ => .invalidRecord (.keyTooLarge key))
    return key
  | none => do
    let key ← onStore issueKey
    modify fun w => { w with entity := w.entity.setKey key }
    return key

/-- Stores the entity under its key. -/
def storeUnder (t : EntityType) (key : String) : EStateM Error Workspace String := do
  let w ← get
  onStore (insertRecord t.partition key w.entity.persisted)
  return key

/-- Stores the entity. -/
def put : EStateM Error Workspace String := do
  let w ← get
  let t ← onStore (resolve w.entity.typeName)
  let found ← ofExcept w.entity.key
  let key ← useKey found
  storeUnder t key

/-- Removes the record of a type under a key. -/
def remove (typeName key : String) : Steps Unit := do
  let t ← resolve typeName
  modify fun s =>
    match s.partitions.get? t.partition with
    | some p => s.setPartition t.partition (p.erase key)
    | none => s

/-- Removes the record that an entity was stored as. -/
def removeEntity (e : Entity) : Steps Unit := do
  match ← ofExcept e.key with
  | some key => remove e.typeName key
  | none => do
    let _ ← resolve e.typeName
    return ()

/-! ## Whole datasets -/

/-- Adds one partition of a dataset, record by record. -/
def loadPartition (name : String) (records : NameMap Record) : Steps Unit := do
  let s ← get
  match s.schema.typeOfPartition? name with
  | none => return ()
  | some t => do
    openPartition name
    records.entries.forM fun e => insertRecord name e.1 (Store.loadedRecord t e.1 e.2)

/-- Adds the partitions of a dataset one after another. -/
def loadPartitions (d : Dataset) : Steps Unit :=
  d.partitions.entries.forM fun e => loadPartition e.1 e.2

/-- Stores every record of a dataset. -/
def load (d : Dataset) : Steps Unit := do
  let s ← get
  match d.partitions.names.find? fun name => !s.schema.hasPartition name with
  | some unknown => throw (.invalidDataset (.unstoredPartition unknown))
  | none => do
    claim d.largestKey? fun largest => .invalidDataset (.keyTooLarge largest)
    loadPartitions d

/-- Clears a copy of the store, loads the dataset there, and then takes the copy for the store. -/
def reset (d : Dataset) : Steps Unit := do
  let s ← get
  match (load d).run s.cleared with
  | .ok _ fresh => set fresh
  | .error cause _ => throw cause

/-! ## All or nothing -/

/-- What steps come to that either succeed or are refused with nothing done. -/
def allOrNothing {σ α : Type} (s : σ) : Except Error (α × σ) → EStateM.Result Error σ α
  | .ok (a, s') => .ok a s'
  | .error cause => .error cause s

section Sequences

variable {σ α β : Type} {x : EStateM Error σ α} {f : α → EStateM Error σ β} {s : σ}

/-- What comes after a change must not be refused any more. -/
theorem run_bind_of_change {r : Except Error (α × σ)} {q : α × σ → β × σ}
    (hx : x.run s = allOrNothing s r)
    (hf : ∀ a s', (f a).run s' = .ok (q (a, s')).1 (q (a, s')).2) :
    (x >>= f).run s = allOrNothing s (r.map q) := by
  rw [EStateM.run_bind, hx]
  cases r with
  | ok result => exact hf result.1 result.2
  | error cause => rfl

theorem run_ofExcept (r : Except Error α) (s : σ) :
    (ofExcept r : EStateM Error σ α).run s = allOrNothing s (r.map fun a => (a, s)) := by
  cases r <;> rfl

end Sequences

theorem run_onStore {α : Type} {x : Steps α} {w : Workspace} {r : Except Error (α × Store)}
    (hx : x.run w.store = allOrNothing w.store r) :
    (onStore x).run w = allOrNothing w (r.map fun a => (a.1, { w with store := a.2 })) := by
  show (match x.run w.store with
    | .ok a s => EStateM.Result.ok a { w with store := s }
    | .error cause s => EStateM.Result.error cause { w with store := s }) = _
  rw [hx]
  cases r <;> rfl

/-- Steps that are never refused, one for each item of a list, come to a fold over it. -/
theorem run_forM {α : Type} {step : α → Steps Unit} (change : Store → α → Store)
    (hstep : ∀ a s, (step a).run s = .ok () (change s a)) (l : List α) (s : Store) :
    (l.forM step).run s = .ok () (l.foldl change s) := by
  induction l generalizing s with
  | nil => rfl
  | cons a rest ih =>
    show (step a >>= fun _ => rest.forM step).run s = _
    rw [EStateM.run_bind, hstep]
    exact ih (change s a)

/-! ## What each sequence of steps does -/

theorem run_resolve (typeName : String) (s : Store) :
    (resolve typeName).run s = allOrNothing s ((s.schema.resolve typeName).map fun t => (t, s)) :=
  run_ofExcept (s.schema.resolve typeName) s

/-- The counter is moved only when there is room, so a refusal finds it where it was. -/
theorem run_claim (number? : Option UInt64) (refusal : UInt64 → Error) (s : Store) :
    (claim number? refusal).run s = allOrNothing s
      (match number? with
        | none => .ok ((), s)
        | some number =>
          match s.counter.advancePast? number with
          | some counter => .ok ((), { s with counter := counter })
          | none => .error (refusal number)) := by
  cases number? with
  | none => rfl
  | some number =>
    rw [claim, EStateM.run_bind, advancePast, EStateM.run_modifyGet]
    cases h : s.counter.advancePast? number with
    | some counter =>
      simp only [h]
      rfl
    | none =>
      simp only [h]
      rfl

theorem run_claim_key (key : String) (s : Store) :
    (claim (KeyCounter.number? key) fun _ => .invalidRecord (.keyTooLarge key)).run s =
      allOrNothing s ((Store.claimKey s.counter key).map fun counter =>
        ((), { s with counter := counter })) := by
  rw [run_claim, Store.claimKey]
  cases KeyCounter.number? key with
  | none => rfl
  | some number => cases h : s.counter.advancePast? number <;> simp [h, Except.map]

theorem run_claim_keys (d : Dataset) (s : Store) :
    (claim d.largestKey? fun largest => .invalidDataset (.keyTooLarge largest)).run s =
      allOrNothing s ((Store.claimKeys s.counter d).map fun counter =>
        ((), { s with counter := counter })) := by
  rw [run_claim, Store.claimKeys]
  cases d.largestKey? with
  | none => rfl
  | some largest => cases h : s.counter.advancePast? largest <;> simp [h, Except.map]

/-- Finding the key and using it does what assigning a key does. -/
theorem run_useKey (w : Workspace) :
    EStateM.run (ofExcept w.entity.key >>= useKey) w =
      allOrNothing w ((Store.assignKey w.store.counter w.entity).map fun a =>
        (a.1, ⟨{ w.store with counter := a.2.2 }, a.2.1⟩)) := by
  rw [EStateM.run_bind, run_ofExcept, Store.assignKey]
  cases w.entity.key with
  | error cause => rfl
  | ok found =>
    cases found with
    | none => rfl
    | some key =>
      -- claiming the key is the only change, and what follows just returns it
      have hclaim := run_onStore (w := w) (run_claim_key key w.store)
      have huse := run_bind_of_change (f := fun _ => pure key) (q := fun a => (key, a.2)) hclaim
        fun _ _ => rfl
      show EStateM.run (onStore _ >>= fun _ => pure key) w = allOrNothing w (Except.map _
        (Store.claimKey w.store.counter key >>= fun counter => .ok (key, w.entity, counter)))
      rw [huse]
      cases Store.claimKey w.store.counter key <;> rfl

/-- The workspace with the entity stored under a key. -/
def withStored (t : EntityType) (key : String) (w : Workspace) : Workspace where
  store := w.store.setPartition t.partition
    ((w.store.partition t.partition).insert key w.entity.persisted)
  entity := w.entity

theorem run_storeUnder (t : EntityType) (key : String) (w : Workspace) :
    (storeUnder t key).run w = .ok key (withStored t key w) := rfl

theorem run_put (w : Workspace) :
    put.run w = allOrNothing w ((w.store.put w.entity).map fun saved =>
      (saved.key, ⟨saved.store, saved.entity⟩)) := by
  have hput : put.run w = EStateM.run (onStore (resolve w.entity.typeName) >>= fun t =>
      (ofExcept w.entity.key >>= useKey) >>= storeUnder t) w := by
    show EStateM.run (onStore (resolve w.entity.typeName) >>= fun t =>
      ofExcept w.entity.key >>= fun found => useKey found >>= storeUnder t) w = _
    simp only [bind_assoc]
  rw [hput, Store.put, EStateM.run_bind, run_onStore (run_resolve w.entity.typeName w.store)]
  cases w.store.schema.resolve w.entity.typeName with
  | error cause => rfl
  | ok t =>
    -- only storing the record is left once the key is in use, and that is never refused
    have hrest := run_bind_of_change (q := fun a => (a.1, withStored t a.1 a.2)) (run_useKey w)
      (run_storeUnder t)
    show EStateM.run ((ofExcept w.entity.key >>= useKey) >>= storeUnder t) w =
      allOrNothing w (Except.map _ (Store.assignKey w.store.counter w.entity >>= _))
    rw [hrest]
    cases Store.assignKey w.store.counter w.entity <;> rfl

/-! ### Removing -/

theorem run_remove (typeName key : String) (s : Store) :
    (remove typeName key).run s =
      allOrNothing s ((s.remove typeName key).map fun s' => ((), s')) := by
  rw [remove, EStateM.run_bind, run_resolve, Store.remove]
  cases s.schema.resolve typeName with
  | error cause => rfl
  | ok t => rfl

theorem run_removeEntity (e : Entity) (s : Store) :
    (removeEntity e).run s = allOrNothing s ((s.removeEntity e).map fun s' => ((), s')) := by
  rw [removeEntity, EStateM.run_bind, run_ofExcept, Store.removeEntity]
  cases e.key with
  | error cause => rfl
  | ok found =>
    cases found with
    | some key => exact run_remove e.typeName key s
    | none =>
      -- the type is looked up only to be refused when it is unknown
      show EStateM.run (resolve e.typeName >>= fun _ => pure ()) s =
        allOrNothing s (Except.map _ (s.schema.resolve e.typeName >>= fun _ => .ok s))
      rw [EStateM.run_bind, run_resolve]
      cases s.schema.resolve e.typeName <;> rfl

/-! ### Whole datasets -/

/-- Records inserted one after another make up what a partition has when all are in it. -/
theorem foldl_insertRecord (t : EntityType) (name : String) (l : List (String × Record))
    (s : Store) (p : Partition) :
    l.foldl (fun s e => s.setPartition name
        ((s.partition name).insert e.1 (Store.loadedRecord t e.1 e.2))) (s.setPartition name p) =
      s.setPartition name
        (l.foldl (fun p e => p.insert e.1 (Store.loadedRecord t e.1 e.2)) p) := by
  induction l generalizing p with
  | nil => rfl
  | cons e rest ih =>
    -- of two settings of one partition the later counts, so the fold can run on the partition alone
    rw [List.foldl_cons, List.foldl_cons, Store.partition_setPartition, if_pos rfl,
      Store.setPartition_setPartition]
    exact ih _

theorem run_loadPartition (name : String) (records : NameMap Record) (s : Store) :
    (loadPartition name records).run s = .ok () (s.loadPartition name records) := by
  rw [loadPartition, EStateM.run_bind, EStateM.run_get, Store.loadPartition]
  show EStateM.run (match s.schema.typeOfPartition? name with | none => _ | some t => _) s = _
  cases s.schema.typeOfPartition? name with
  | none => rfl
  | some t =>
    have hrecords : ∀ s' : Store, EStateM.run (records.entries.forM fun e =>
          insertRecord name e.1 (Store.loadedRecord t e.1 e.2)) s' =
        .ok () (records.entries.foldl (fun s e => s.setPartition name
          ((s.partition name).insert e.1 (Store.loadedRecord t e.1 e.2))) s') :=
      fun s' => run_forM _ (fun _ _ => rfl) records.entries s'
    show EStateM.run (records.entries.forM _) (s.setPartition name (s.partition name)) = _
    rw [hrecords, foldl_insertRecord]
    rfl

theorem run_loadPartitions (d : Dataset) (s : Store) :
    (loadPartitions d).run s = .ok () (s.withRecords d) := by
  apply run_forM
  intro e s'
  exact run_loadPartition e.1 e.2 s'

theorem run_load (d : Dataset) (s : Store) :
    (load d).run s = allOrNothing s ((s.load d).map fun s' => ((), s')) := by
  rw [load, EStateM.run_bind, EStateM.run_get, Store.load]
  show EStateM.run (match d.partitions.names.find? fun name => !s.schema.hasPartition name with
    | some unknown => _ | none => _) s = _
  cases d.partitions.names.find? fun name => !s.schema.hasPartition name with
  | some unknown => rfl
  | none =>
    -- the partitions follow the last check, and none of them is refused
    have hload := run_bind_of_change (q := fun a => ((), a.2.withRecords d)) (run_claim_keys d s)
      fun _ s' => run_loadPartitions d s'
    show EStateM.run (claim _ _ >>= fun _ => loadPartitions d) s =
      allOrNothing s (Except.map _ (Store.claimKeys s.counter d >>= _))
    rw [hload]
    cases Store.claimKeys s.counter d <;> rfl

theorem run_reset (d : Dataset) (s : Store) :
    (reset d).run s = allOrNothing s ((s.reset d).map fun s' => ((), s')) := by
  rw [reset, EStateM.run_bind, EStateM.run_get, Store.reset]
  show EStateM.run (match (load d).run s.cleared with
    | .ok _ fresh => set fresh
    | .error cause _ => throw cause) s = _
  rw [run_load]
  cases s.cleared.load d <;> rfl

/-! ## Refusals -/

theorem allOrNothing_map_eq_error_iff {σ α β : Type} {s s' : σ} {r : Except Error α}
    {f : α → β × σ} {cause : Error} :
    allOrNothing s (r.map f) = .error cause s' ↔ r = .error cause ∧ s' = s := by
  cases r with
  | ok result =>
    constructor
    · intro h
      cases h
    · rintro ⟨h, _⟩
      cases h
  | error other =>
    constructor
    · intro h
      cases h
      exact ⟨rfl, rfl⟩
    · rintro ⟨⟨⟩, rfl⟩
      rfl

/-- Carried out in place, an operation is refused exactly when it is refused as a whole and for the
same cause, and then the store, and the entity that was to be stored, are as they were before. -/
theorem refused_leaves_unchanged :
    (∀ (w w' : Workspace) (cause : Error), put.run w = .error cause w' ↔
      w.store.put w.entity = .error cause ∧ w' = w) ∧
    (∀ (typeName key : String) (s s' : Store) (cause : Error),
      (remove typeName key).run s = .error cause s' ↔
        s.remove typeName key = .error cause ∧ s' = s) ∧
    (∀ (e : Entity) (s s' : Store) (cause : Error), (removeEntity e).run s = .error cause s' ↔
      s.removeEntity e = .error cause ∧ s' = s) ∧
    (∀ (d : Dataset) (s s' : Store) (cause : Error), (load d).run s = .error cause s' ↔
      s.load d = .error cause ∧ s' = s) ∧
    (∀ (d : Dataset) (s s' : Store) (cause : Error), (reset d).run s = .error cause s' ↔
      s.reset d = .error cause ∧ s' = s) := by
  refine ⟨?put, ?remove, ?removeEntity, ?load, ?reset⟩
  case put =>
    intro w w' cause
    rw [run_put, allOrNothing_map_eq_error_iff]
  case remove =>
    intro typeName key s s' cause
    rw [run_remove, allOrNothing_map_eq_error_iff]
  case removeEntity =>
    intro e s s' cause
    rw [run_removeEntity, allOrNothing_map_eq_error_iff]
  case load =>
    intro d s s' cause
    rw [run_load, allOrNothing_map_eq_error_iff]
  case reset =>
    intro d s s' cause
    rw [run_reset, allOrNothing_map_eq_error_iff]

end RecordStore.InPlace
