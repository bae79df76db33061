/-
# RecordStore.Proofs.Store.ClaimedKeys — what claiming keys does to the counter.

A key that a caller brings moves the counter past the number that it writes.  Putting an entity
claims one key, loading a dataset claims all of its keys by the largest of them.  Both are cases of
one relation, `MovedPast`: every number leaves room for generated keys, and the counter that comes of
it is the least that is not behind the old one and beyond all the numbers.

The relation is stated by bounds, so it does not depend on the order of the numbers, nor on whether
they are claimed one after another (`foldlM_claimKey_eq_ok_iff`) or all at once
(`claimKeys_eq_ok_iff_movedPast`).
-/
import RecordStore.Proofs.Store.Laws

namespace RecordStore

/-! ## Moving past numbers -/

namespace KeyCounter

variable {c c' d : KeyCounter} {n : UInt64} {numbers later : List UInt64}

theorem eq_of_toNat_next (h : c.next.toNat = d.next.toNat) : c = d := by
  cases c
  cases d
  exact congrArg KeyCounter.mk (UInt64.toNat_inj.mp h)

/-- The counter is moved past a number exactly when that number leaves room. -/
theorem advancePast?_eq_some_iff :
    c.advancePast? n = some d ↔
      n.toNat < 2 ^ 64 - 2 ∧ d.next.toNat = max c.next.toNat (n.toNat + 1) := by
  constructor
  · intro h
    refine ⟨Nat.lt_of_not_le fun hlarge => ?_, toNat_next_of_advancePast? h⟩
    cases h.symm.trans (advancePast?_eq_none_iff.mpr hlarge)
  · rintro ⟨hroom, hnext⟩
    cases h : c.advancePast? n with
    | none =>
      have hlarge := advancePast?_eq_none_iff.mp h
      omega
    | some d' => rw [eq_of_toNat_next ((toNat_next_of_advancePast? h).trans hnext.symm)]

/-- The counter `d` is the least that is not behind `c` and beyond every one of the numbers, each of
which leaves room for generated keys. -/
structure MovedPast (c : KeyCounter) (numbers : List UInt64) (d : KeyCounter) : Prop where
  room : ∀ n ∈ numbers, n.toNat < 2 ^ 64 - 2
  least : ∀ m, d.next.toNat ≤ m ↔ c.next.toNat ≤ m ∧ ∀ n ∈ numbers, n.toNat < m

theorem MovedPast.unique (h : MovedPast c numbers d) (h' : MovedPast c numbers c') : d = c' := by
  apply eq_of_toNat_next
  apply Nat.le_antisymm
  · exact (h.least _).mpr ((h'.least _).mp (Nat.le_refl _))
  · exact (h'.least _).mpr ((h.least _).mp (Nat.le_refl _))

theorem MovedPast.le (h : MovedPast c numbers d) : c.next.toNat ≤ d.next.toNat :=
  ((h.least _).mp (Nat.le_refl _)).1

/-- A counter that was moved past numbers stays where it is when it is moved past them again. -/
theorem MovedPast.again (h : MovedPast c numbers d) : MovedPast d numbers d := by
  refine ⟨h.room, fun m => ⟨fun hm => ⟨hm, ?_⟩, And.left⟩⟩
  exact ((h.least m).mp hm).2

theorem movedPast_nil_iff : MovedPast c [] d ↔ d = c := by
  have hself : MovedPast c [] c := ⟨by simp, by simp⟩
  constructor
  · intro h
    exact h.unique hself
  · rintro rfl
    exact hself

theorem movedPast_singleton_iff : MovedPast c [n] d ↔ c.advancePast? n = some d := by
  rw [advancePast?_eq_some_iff]
  constructor
  · intro h
    refine ⟨h.room n List.mem_cons_self, ?_⟩
    have hbelow := (h.least _).mp (Nat.le_refl d.next.toNat)
    have habove := (h.least (max c.next.toNat (n.toNat + 1))).mpr
      ⟨Nat.le_max_left _ _, List.forall_mem_singleton.mpr (Nat.le_max_right _ _)⟩
    have hn := hbelow.2 n List.mem_cons_self
    omega
  · rintro ⟨hroom, hnext⟩
    refine ⟨List.forall_mem_singleton.mpr hroom, ?_⟩
    intro m
    rw [hnext, List.forall_mem_singleton]
    omega

/-- Numbers may be moved past in two parts. -/
theorem movedPast_append_iff (h : MovedPast c numbers c') :
    MovedPast c (numbers ++ later) d ↔ MovedPast c' later d := by
  have hleast : ∀ m, (c'.next.toNat ≤ m ∧ ∀ n ∈ later, n.toNat < m) ↔
      (c.next.toNat ≤ m ∧ ∀ n ∈ numbers ++ later, n.toNat < m) := by
    intro m
    rw [h.least, List.forall_mem_append, and_assoc]
  constructor
  · rintro ⟨hroom, hd⟩
    refine ⟨fun n hn => hroom n (List.mem_append_right _ hn), ?_⟩
    intro m
    rw [hd, hleast]
  · rintro ⟨hroom, hd⟩
    refine ⟨List.forall_mem_append.mpr ⟨h.room, hroom⟩, ?_⟩
    intro m
    rw [hd, hleast]

/-- The order in which numbers are moved past does not matter, nor in which parts. -/
theorem MovedPast.comm {c₁ c₂ d₁ d₂ : KeyCounter} (h₁ : MovedPast c numbers c₁)
    (h₁' : MovedPast c₁ later d₁) (h₂ : MovedPast c later c₂) (h₂' : MovedPast c₂ numbers d₂) :
    d₁ = d₂ := by
  have hfirst : MovedPast c (numbers ++ later) d₁ := (movedPast_append_iff h₁).mpr h₁'
  obtain ⟨hroom, hleast⟩ := (movedPast_append_iff h₂).mpr h₂'
  refine hfirst.unique ⟨?_, ?_⟩
  · intro n hn
    exact hroom n (List.mem_append.mpr (List.mem_append.mp hn).symm)
  · intro m
    rw [hleast, List.forall_mem_append, List.forall_mem_append, and_comm (a := ∀ n ∈ later, _)]

/-- The largest of several numbers stands for all of them. -/
theorem movedPast_max_iff {largest : UInt64} (h : numbers.max? = some largest) :
    MovedPast c numbers d ↔ MovedPast c [largest] d := by
  obtain ⟨hmem, hle⟩ := List.max?_eq_some_iff.mp h
  have hbound : ∀ m, (∀ n ∈ numbers, n.toNat < m) ↔ ∀ n ∈ [largest], n.toNat < m := by
    intro m
    constructor
    · intro hm
      simpa using hm largest hmem
    · intro hm n hn
      have hlargest := hm largest List.mem_cons_self
      have hn := UInt64.le_iff_toNat_le.mp (hle n hn)
      omega
  constructor
  · rintro ⟨hroom, hd⟩
    refine ⟨(hbound _).mp hroom, ?_⟩
    intro m
    rw [hd, hbound]
  · rintro ⟨hroom, hd⟩
    refine ⟨(hbound _).mpr hroom, ?_⟩
    intro m
    rw [hd, hbound]

/-- Whether numbers can be moved past does not depend on the counter. -/
theorem exists_movedPast (c : KeyCounter) (hroom : ∀ n ∈ numbers, n.toNat < 2 ^ 64 - 2) :
    ∃ d, MovedPast c numbers d := by
  induction numbers generalizing c with
  | nil => exact ⟨c, movedPast_nil_iff.mpr rfl⟩
  | cons n rest ih =>
    obtain ⟨hn, hrest⟩ := List.forall_mem_cons.mp hroom
    cases h : c.advancePast? n with
    | none =>
      have hlarge := advancePast?_eq_none_iff.mp h
      omega
    | some c' =>
      obtain ⟨d, hd⟩ := ih c' hrest
      exact ⟨d, (movedPast_append_iff (movedPast_singleton_iff.mpr h)).mpr hd⟩

/-- A counter that is moved past the same numbers as a new one becomes what the new one becomes, unless
it was beyond that already. -/
theorem MovedPast.next_eq_max (h : MovedPast c numbers d) (hzero : MovedPast .zero numbers c') :
    d.next.toNat = max c.next.toNat c'.next.toNat := by
  have hiff : ∀ m, d.next.toNat ≤ m ↔ c.next.toNat ≤ m ∧ c'.next.toNat ≤ m := by
    intro m
    rw [h.least, hzero.least]
    simp [zero]
  have hd := (hiff _).mp (Nat.le_refl _)
  have hmax := (hiff (max c.next.toNat c'.next.toNat)).mpr (by omega)
  omega

end KeyCounter

/-! ## Claiming keys -/

namespace Store

open KeyCounter (MovedPast)

variable {c c' d : KeyCounter}

theorem claimKey_eq_ok_iff_movedPast {key : String} :
    claimKey c key = .ok d ↔ MovedPast c (KeyCounter.number? key).toList d := by
  rw [claimKey_eq_ok_iff]
  cases KeyCounter.number? key with
  | none => simp [KeyCounter.movedPast_nil_iff]
  | some number => simp [KeyCounter.movedPast_singleton_iff]

/-- Keys claimed one after another move the counter past all the numbers that they write. -/
theorem foldlM_claimKey_eq_ok_iff {keys : List String} :
    keys.foldlM claimKey c = .ok d ↔ MovedPast c (keys.filterMap KeyCounter.number?) d := by
  induction keys generalizing c with
  | nil =>
    rw [List.filterMap_nil, KeyCounter.movedPast_nil_iff]
    show Except.ok c = Except.ok d ↔ d = c
    rw [Except.ok.injEq, eq_comm]
  | cons key rest ih =>
    have happend : (key :: rest).filterMap KeyCounter.number? =
        (KeyCounter.number? key).toList ++ rest.filterMap KeyCounter.number? := by
      cases h : KeyCounter.number? key <;> simp [h]
    rw [List.foldlM_cons, bind_eq_ok_iff, happend]
    constructor
    · rintro ⟨c', hclaim, hrest⟩
      exact (KeyCounter.movedPast_append_iff (claimKey_eq_ok_iff_movedPast.mp hclaim)).mpr
        (ih.mp hrest)
    · intro h
      have hroom := (List.forall_mem_append.mp h.room).1
      obtain ⟨c', hc'⟩ := KeyCounter.exists_movedPast c hroom
      exact ⟨c', claimKey_eq_ok_iff_movedPast.mpr hc',
        ih.mpr ((KeyCounter.movedPast_append_iff hc').mp h)⟩

/-- The keys of a dataset, claimed by the largest number among them, move the counter past every
number that they write. -/
theorem claimKeys_eq_ok_iff_movedPast {data : Dataset} :
    claimKeys c data = .ok d ↔ MovedPast c data.numericKeys d := by
  rw [claimKeys_eq_ok_iff]
  cases h : data.largestKey? with
  | none =>
    have hnil : data.numericKeys = [] := List.max?_eq_none_iff.mp h
    simp [hnil, KeyCounter.movedPast_nil_iff]
  | some largest =>
    rw [KeyCounter.movedPast_max_iff h, KeyCounter.movedPast_singleton_iff]
    simp

/-- Whether the keys of a dataset can be claimed, and if not why, does not depend on the counter. -/
theorem claimKeys_eq_error_iff {data : Dataset} {cause : Error} :
    claimKeys c data = .error cause ↔
      ∃ largest, data.largestKey? = some largest ∧ 2 ^ 64 - 2 ≤ largest.toNat ∧
        cause = .invalidDataset (.keyTooLarge largest) := by
  unfold claimKeys
  cases data.largestKey? with
  | none => simp
  | some largest =>
    cases h : c.advancePast? largest with
    | none =>
      have hlarge := KeyCounter.advancePast?_eq_none_iff.mp h
      simp [h, hlarge, eq_comm]
    | some d =>
      have hroom := (KeyCounter.advancePast?_eq_some_iff.mp h).1
      simp [h]
      omega

end Store

end RecordStore
