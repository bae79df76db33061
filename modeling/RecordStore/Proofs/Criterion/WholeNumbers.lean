/-
# RecordStore.Proofs.Criterion.WholeNumbers — number fields tested against whole numbers.

Records keep whole numbers of 64 bits exactly, and a criterion gives one exactly, but a test compares
the doubles of the two.  So a test admits a number when the two are rounded to the same 53 significant
bits.  This is equality when either of them is less than `2 ^ 53` in magnitude
(`whole_test_admits_nearest`).  Of two neighbours beyond that, one may be found by a query for the
other (`neighbour_found`).
-/
import RecordStore.Proofs.Criterion.Reading
import RecordStore.Proofs.Number.Nearest

namespace RecordStore

open Number (Binary64)

/-- A whole number of 64 bits as a value. -/
def Value.whole (n : Int) (fits : Json.FitsWord n) : Value := .number (.integer n fits)

theorem Json.FitsWord.natAbs_lt {n : Int} (h : FitsWord n) : n.natAbs < 2 ^ 64 := by
  unfold FitsWord at h
  omega

namespace Predicate

variable {t : EntityType} {field : String} {m n : Int} {hm : Json.FitsWord m}

/-- A test against a whole number compiles for every number field, to a test against the double. -/
theorem compile_whole_test (hfield : t.fields.get? field = some .number) (hm : Json.FitsWord m) :
    compile t (.test field (.whole m hm)) = .ok (.numberIs field (.ofInt m)) :=
  compile_test_eq_ok_iff.mpr ⟨.number, hfield, rfl⟩

theorem numberIs_matches_iff {r : Record} {hn : Json.FitsWord n}
    (hr : r.get? field = some (.whole n hn)) (hm : Json.FitsWord m) :
    (numberIs field (.ofInt m)).matchesRecord r = true ↔
      Binary64.nearestInt n = Binary64.nearestInt m := by
  rw [matchesRecord_numberIs, ← Binary64.equal_ofInt_iff_nearestInt hn.natAbs_lt hm.natAbs_lt]
  constructor
  · rintro ⟨stored, hstored, number, hjson, hequal⟩
    obtain rfl : stored = .whole n hn := Option.some.inj (hstored.symm.trans hr)
    cases hjson
    exact hequal
  · intro hequal
    exact ⟨_, hr, _, rfl, hequal⟩

/-- Rounding keeps a whole number of 53 bits apart from every other. -/
theorem nearestInt_eq_iff (hn : Json.FitsWord n) (hm : Json.FitsWord m)
    (h : n.natAbs < 2 ^ 53 ∨ m.natAbs < 2 ^ 53) :
    Binary64.nearestInt n = Binary64.nearestInt m ↔ n = m := by
  rcases h with hsmall | hsmall
  · rw [eq_comm, ← Binary64.equal_ofInt_iff_nearestInt hm.natAbs_lt hn.natAbs_lt,
      Binary64.equal_ofInt_iff hsmall, eq_comm]
  · rw [← Binary64.equal_ofInt_iff_nearestInt hn.natAbs_lt hm.natAbs_lt,
      Binary64.equal_ofInt_iff hsmall]

end Predicate

namespace Store

theorem query_whole_test {s : Store} {typeName field : String} {t : EntityType}
    (ht : s.schema.resolve typeName = .ok t) (hfield : t.fields.get? field = some .number) {m : Int}
    (hm : Json.FitsWord m) :
    s.query typeName (some (.test field (.whole m hm))) =
      .ok ((s.partition t.partition).records.filter
        (Predicate.numberIs field (.ofInt m)).matchesRecord) := by
  rw [query_of_resolve ht, Predicate.ofCriterion?, Predicate.compile_whole_test hfield hm]
  rfl

/-- A test of a number field against a whole number compiles, and matches the records that hold a
whole number which is rounded to the same 53 significant bits: the number itself, and no other one
unless both are of `2 ^ 53` or more in magnitude.  The same goes for the records that a query with
this test gives. -/
theorem whole_test_admits_nearest {t : EntityType} {field : String}
    (hfield : t.fields.get? field = some .number) {m : Int} (hm : Json.FitsWord m) :
    ∃ p, Predicate.compile t (.test field (.whole m hm)) = .ok p ∧
      (∀ (r : Record) (n : Int) (hn : Json.FitsWord n), r.get? field = some (.whole n hn) →
        (p.matchesRecord r = true ↔ Binary64.nearestInt n = Binary64.nearestInt m) ∧
        (n.natAbs < 2 ^ 53 ∨ m.natAbs < 2 ^ 53 → (p.matchesRecord r = true ↔ n = m))) ∧
      ∀ (s : Store) (typeName : String), s.schema.resolve typeName = .ok t →
        ∃ records, s.query typeName (some (.test field (.whole m hm))) = .ok records ∧
          ∀ (r : Record) (n : Int) (hn : Json.FitsWord n), r.get? field = some (.whole n hn) →
            (r ∈ records ↔ r ∈ (s.partition t.partition).records ∧
              Binary64.nearestInt n = Binary64.nearestInt m) ∧
            (n.natAbs < 2 ^ 53 ∨ m.natAbs < 2 ^ 53 → r ∈ records → n = m) := by
  have hcompile := Predicate.compile_whole_test hfield hm
  have hmatches : ∀ (r : Record) (n : Int) (hn : Json.FitsWord n),
      r.get? field = some (.whole n hn) →
        ((Predicate.numberIs field (.ofInt m)).matchesRecord r = true ↔
          Binary64.nearestInt n = Binary64.nearestInt m) :=
    fun r n hn hr => Predicate.numberIs_matches_iff hr hm
  refine ⟨_, hcompile, ?matching, ?querying⟩
  case matching =>
    intro r n hn hr
    refine ⟨hmatches r n hn hr, ?_⟩
    intro hsmall
    rw [hmatches r n hn hr, Predicate.nearestInt_eq_iff hn hm hsmall]
  case querying =>
    intro s typeName ht
    refine ⟨_, query_whole_test ht hfield hm, ?_⟩
    intro r n hn hr
    have hmem : r ∈ (s.partition t.partition).records.filter
        (Predicate.numberIs field (.ofInt m)).matchesRecord ↔
          r ∈ (s.partition t.partition).records ∧
            Binary64.nearestInt n = Binary64.nearestInt m := by
      rw [List.mem_filter, hmatches r n hn hr]
    refine ⟨hmem, ?_⟩
    intro hsmall hfound
    exact (Predicate.nearestInt_eq_iff hn hm hsmall).mp (hmem.mp hfound).2

/-- A tag with a number of uses. -/
def usedTag (n : Int) (fits : Json.FitsWord n) : Record :=
  Record.empty.insert "count" (.whole n fits)

theorem three_uses_found :
    Catalog.tag.fields.get? "count" = some .number ∧
    ∃ p, Predicate.compile Catalog.tag (.test "count" (.whole 3 (by decide))) = .ok p ∧
      p.matchesRecord (usedTag 3 (by decide)) = true ∧
      p.matchesRecord (usedTag (2 ^ 53 + 3) (by decide)) ≠ true := by
  have hcount : Catalog.tag.fields.get? "count" = some .number := by rfl
  have hsmall : (3 : Int).natAbs < 2 ^ 53 := by decide
  obtain ⟨p, hp, hmatches, _⟩ :=
    whole_test_admits_nearest hcount (by decide : Json.FitsWord 3)
  have hthree := (hmatches (usedTag 3 (by decide)) 3 (by decide) (by rfl)).2 (.inr hsmall)
  have hmany := (hmatches (usedTag (2 ^ 53 + 3) (by decide)) (2 ^ 53 + 3) (by decide) (by rfl)).2
    (.inr hsmall)
  exact ⟨hcount, p, hp, hthree.mpr rfl, fun h => absurd (hmany.mp h) (by decide)⟩

/-- A query for one more than `2 ^ 53` uses finds a tag that is stored with `2 ^ 53`. -/
theorem neighbour_found :
    Catalog.tag.fields.get? "count" = some .number ∧
    ∃ p r saved, Predicate.compile Catalog.tag
        (.test "count" (.whole (2 ^ 53 + 1) (by decide))) = .ok p ∧
      r.get? "count" = some (.whole (2 ^ 53) (by decide)) ∧ p.matchesRecord r = true ∧
      (empty Catalog.builtIn).put (.ofType Catalog.tag (usedTag (2 ^ 53) (by decide))) = .ok saved ∧
      saved.store.query "Tag" (some (.test "count" (.whole (2 ^ 53 + 1) (by decide)))) = .ok [r] := by
  have hcount : Catalog.tag.fields.get? "count" = some .number := by rfl
  have hcompile := Predicate.compile_whole_test hcount (by decide : Json.FitsWord (2 ^ 53 + 1))
  obtain ⟨saved, hput⟩ : ∃ saved, (empty Catalog.builtIn).put
      (.ofType Catalog.tag (usedTag (2 ^ 53) (by decide))) = .ok saved := ⟨_, rfl⟩
  obtain ⟨r, hrecords, hr⟩ : ∃ r, (saved.store.partition "tags").records = [r] ∧
      r.get? "count" = some (.whole (2 ^ 53) (by decide)) := by
    cases hput
    exact ⟨_, rfl, rfl⟩
  -- `2 ^ 53 + 1` lies halfway between two numbers of 53 bits, and the tie goes to `2 ^ 53`
  have hmatches := (Predicate.numberIs_matches_iff hr
    (by decide : Json.FitsWord (2 ^ 53 + 1))).mpr (by decide)
  have hresolve : saved.store.schema.resolve "Tag" = .ok Catalog.tag := by
    cases hput
    rfl
  refine ⟨hcount, _, r, saved, hcompile, hr, hmatches, hput, ?_⟩
  rw [query_whole_test hresolve hcount, show Catalog.tag.partition = "tags" from rfl, hrecords,
    List.filter_cons_of_pos hmatches, List.filter_nil]

end Store

end RecordStore
