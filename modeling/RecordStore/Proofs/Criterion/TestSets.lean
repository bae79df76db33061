/-
# RecordStore.Proofs.Criterion.TestSets — conjunctive queries as sets of tests.

A criterion without any operator but conjunction says of a record that it passes all of its tests.  How
they are nested, in which order and how often they are written is not seen in what a query gives.  No
criterion at all is the empty set of tests, and a conjunction of two criteria is their union.

`query_eq_ok_iff_tests` says what a conjunctive query gives from the set of its tests alone.  The rest
follows from it: equal sets give equal answers, and more tests give fewer records
(`query_depends_on_tests`).  The set decides whether a query is refused too, but not the reason that is
given, which is the first fault in the order of writing.
-/
import Mathlib.Data.List.Basic
import Mathlib.Data.Set.Basic
import RecordStore.Proofs.Criterion.FirstFault

namespace RecordStore

namespace Criterion

/-! ## The tests of a criterion -/

/-- The tests of a criterion that may be absent.  Two tests are the same if their fields are, and the
values that they test against: `0.0` and `-0.0` are two values here, as they have two texts. -/
def tests (c : Option Criterion) : Set (String × Value) :=
  {test | ∃ d, c = some d ∧ Criterion.test test.1 test.2 ∈ d.nodes}

/-- A criterion, if there is one, has no operator but conjunction. -/
def Conjunctive (c : Option Criterion) : Prop :=
  ∀ d, c = some d → ∀ kind children, Criterion.group kind children ∈ d.nodes → kind = conjunction

/-- The conjunction of two criteria that may be absent. -/
def both (c c' : Option Criterion) : Option Criterion := some (.all (c.toList ++ c'.toList))

section Tests

variable {t : EntityType} {r : Record} {c c' : Option Criterion}

theorem mem_nodesOf_iff {children : List Criterion} {node : Criterion} :
    node ∈ nodesOf children ↔ ∃ child ∈ children, node ∈ child.nodes := by
  induction children with
  | nil => simp [nodesOf]
  | cons child rest ih => simp [nodesOf, ih]

theorem tests_both : tests (both c c') = tests c ∪ tests c' := by
  ext test
  simp only [tests, both, all, nodes, Set.mem_ofPred_eq, Set.mem_union, Option.some.injEq,
    exists_eq_left', List.mem_cons, reduceCtorEq, false_or, mem_nodesOf_iff, List.mem_append,
    Option.mem_toList, or_and_right, exists_or]

theorem Conjunctive.both (hc : Conjunctive c) (hc' : Conjunctive c') : Conjunctive (both c c') := by
  intro d hd kind children hmem
  obtain rfl : Criterion.all (c.toList ++ c'.toList) = d := Option.some.inj hd
  rw [all, nodes, List.mem_cons, mem_nodesOf_iff] at hmem
  rcases hmem with h | ⟨child, hchild, h⟩
  · cases h
    rfl
  · rw [List.mem_append, Option.mem_toList, Option.mem_toList] at hchild
    rcases hchild with hchild | hchild
    · exact hc child hchild kind children h
    · exact hc' child hchild kind children h

mutual

/-- A conjunctive criterion holds of a record when all its tests do. -/
theorem holds_iff_tests : ∀ c : Criterion,
    (∀ kind children, .group kind children ∈ c.nodes → kind = conjunction) →
      (c.Holds t r ↔ ∀ field v, .test field v ∈ c.nodes → (Criterion.test field v).Holds t r)
  | .test field v, _ => by
    simp [nodes]
  | .group kind children, h => by
    obtain rfl : kind = conjunction := h kind children List.mem_cons_self
    have each := forall_holds_iff_tests children fun kind children hmem =>
      h kind children (List.mem_cons_of_mem _ hmem)
    show (Criterion.all children).Holds t r ↔ _
    rw [holds_all_iff, each]
    simp [nodes]

/-- Conjunctive criteria all hold of a record when all their tests do. -/
theorem forall_holds_iff_tests : ∀ children : List Criterion,
    (∀ kind children', .group kind children' ∈ nodesOf children → kind = conjunction) →
      ((∀ child ∈ children, child.Holds t r) ↔
        ∀ field v, .test field v ∈ nodesOf children → (Criterion.test field v).Holds t r)
  | [], _ => by
    simp [nodesOf]
  | child :: rest, h => by
    have first := holds_iff_tests child fun kind children hmem =>
      h kind children (List.mem_append_left _ hmem)
    have others := forall_holds_iff_tests rest fun kind children hmem =>
      h kind children (List.mem_append_right _ hmem)
    rw [List.forall_mem_cons, first, others]
    simp [nodesOf, or_imp, forall_and]

end

end Tests

end Criterion

/-! ## Compiling -/

namespace Predicate

open Criterion (Conjunctive tests)

variable {t : EntityType} {c : Option Criterion} {p : Predicate}

/-- A conjunctive criterion compiles when every one of its tests does. -/
theorem exists_ofCriterion?_eq_ok_iff (hc : Conjunctive c) :
    (∃ p, ofCriterion? t c = .ok p) ↔
      ∀ test ∈ tests c, (Criterion.test test.1 test.2).Sound t := by
  cases c with
  | none => simp [ofCriterion?, tests]
  | some d =>
    rw [ofCriterion?, exists_compile_eq_ok_iff]
    constructor
    · rintro h test ⟨_, ⟨⟩, hmem⟩
      exact h _ hmem
    · intro h node hnode
      cases node with
      | group kind children =>
        rw [hc d rfl kind children hnode]
        exact .group children
      | test field v => exact h (field, v) ⟨d, rfl, hnode⟩

theorem matchesRecord_iff_tests (hc : Conjunctive c) (hp : ofCriterion? t c = .ok p) (r : Record) :
    p.matchesRecord r = true ↔
      ∀ test ∈ tests c, (Criterion.test test.1 test.2).Holds t r := by
  cases c with
  | none =>
    cases hp
    simp [matchesRecord, tests]
  | some d =>
    rw [matchesRecord_iff_holds r d p hp, Criterion.holds_iff_tests d (hc d rfl)]
    simp [tests]

end Predicate

/-! ## Queries -/

namespace Store

open Criterion (Conjunctive tests both)

variable {s : Store} {typeName : String} {c c' : Option Criterion}

section Filter

open scoped Classical

/-- A conjunctive query depends on the set of its tests. -/
theorem query_eq_ok_iff_tests (hc : Conjunctive c) {found : List Record} :
    s.query typeName c = .ok found ↔
      ∃ t, s.schema.resolve typeName = .ok t ∧
        (∀ test ∈ tests c, (Criterion.test test.1 test.2).Sound t) ∧
        found = (s.partition t.partition).records.filter fun r =>
          decide (∀ test ∈ tests c, (Criterion.test test.1 test.2).Holds t r) := by
  rw [query, bind_eq_ok_iff]
  refine exists_congr fun t => and_congr_right fun _ => ?_
  rw [bind_eq_ok_iff, ← Predicate.exists_ofCriterion?_eq_ok_iff hc, ← exists_and_right]
  refine exists_congr fun p => and_congr_right fun hp => ?_
  have hkeep : (s.partition t.partition).records.filter p.matchesRecord =
      (s.partition t.partition).records.filter fun r =>
        decide (∀ test ∈ tests c, (Criterion.test test.1 test.2).Holds t r) := by
    refine List.filter_congr fun r _ => ?_
    rw [Bool.eq_iff_iff, decide_eq_true_iff, Predicate.matchesRecord_iff_tests hc hp]
  rw [← hkeep]
  show Except.ok _ = Except.ok found ↔ _
  rw [Except.ok.injEq, eq_comm]

/-- A conjunctive query with more tests is not refused more easily, and gives fewer records. -/
theorem query_of_tests_subset (hc : Conjunctive c) (hc' : Conjunctive c') (h : tests c ⊆ tests c')
    {found' : List Record} (hfound' : s.query typeName c' = .ok found') :
    ∃ found, s.query typeName c = .ok found ∧ found'.Sublist found := by
  obtain ⟨t, ht, hsound, rfl⟩ := (query_eq_ok_iff_tests hc').mp hfound'
  refine ⟨_, (query_eq_ok_iff_tests hc).mpr ⟨t, ht, fun test hmem => hsound test (h hmem), rfl⟩, ?_⟩
  apply List.monotone_filter_right
  intro r hr
  simp only [decide_eq_true_eq] at hr ⊢
  exact fun test hmem => hr test (h hmem)

/-- A query for two conjunctive criteria at once gives the records that the queries for them have in
common. -/
theorem query_both_eq_ok_iff (hc : Conjunctive c) (hc' : Conjunctive c') {shared : List Record} :
    s.query typeName (both c c') = .ok shared ↔
      ∃ found found', s.query typeName c = .ok found ∧ s.query typeName c' = .ok found' ∧
        shared = found.filter (· ∈ found') := by
  simp only [query_eq_ok_iff_tests hc, query_eq_ok_iff_tests hc',
    query_eq_ok_iff_tests (hc.both hc'), Criterion.tests_both, Set.mem_union, or_imp, forall_and]
  have hshared : ∀ t : EntityType,
      ((s.partition t.partition).records.filter fun r =>
        decide (∀ test ∈ tests c, (Criterion.test test.1 test.2).Holds t r)).filter
          (· ∈ (s.partition t.partition).records.filter fun r =>
            decide (∀ test ∈ tests c', (Criterion.test test.1 test.2).Holds t r)) =
      (s.partition t.partition).records.filter fun r =>
        decide ((∀ test ∈ tests c, (Criterion.test test.1 test.2).Holds t r) ∧
          ∀ test ∈ tests c', (Criterion.test test.1 test.2).Holds t r) := by
    -- membership among the other records is a test of the other criterion
    intro t
    rw [List.filter_filter]
    refine List.filter_congr fun r hr => ?_
    simp [List.mem_filter, hr, Bool.and_comm]
  constructor
  · rintro ⟨t, ht, ⟨hsound, hsound'⟩, rfl⟩
    exact ⟨_, _, ⟨t, ht, hsound, rfl⟩, ⟨t, ht, hsound', rfl⟩, (hshared t).symm⟩
  · rintro ⟨_, _, ⟨t, ht, hsound, rfl⟩, ⟨t', ht', hsound', rfl⟩, rfl⟩
    obtain rfl : t = t' := Except.ok.inj (ht.symm.trans ht')
    exact ⟨t, ht, ⟨hsound, hsound'⟩, hshared t⟩

end Filter

/-- A conjunctive query depends on the set of its tests alone.  Two such queries with the same tests are
both refused or give the same records.  With more tests a query gives a sublist of the records, and the
query for two criteria at once gives those that are common to both, in their order. -/
theorem query_depends_on_tests (s : Store) (typeName : String) {c c' : Option Criterion}
    (hc : Conjunctive c) (hc' : Conjunctive c') :
    (tests c = tests c' →
      (∃ found, s.query typeName c = .ok found ∧ s.query typeName c' = .ok found) ∨
      ((∃ cause, s.query typeName c = .error cause) ∧
        ∃ cause, s.query typeName c' = .error cause)) ∧
    (tests c ⊆ tests c' → ∀ found', s.query typeName c' = .ok found' →
      ∃ found, s.query typeName c = .ok found ∧ found'.Sublist found) ∧
    (∀ shared, s.query typeName (both c c') = .ok shared ↔
      ∃ found found', s.query typeName c = .ok found ∧ s.query typeName c' = .ok found' ∧
        shared = found.filter (· ∈ found')) := by
  refine ⟨?_, fun h found' => query_of_tests_subset hc hc' h, fun shared => query_both_eq_ok_iff hc hc'⟩
  intro h
  have hiff : ∀ found, s.query typeName c = .ok found ↔ s.query typeName c' = .ok found := by
    intro found
    rw [query_eq_ok_iff_tests hc, query_eq_ok_iff_tests hc', h]
  cases hquery : s.query typeName c with
  | ok found => exact .inl ⟨found, rfl, (hiff found).mp hquery⟩
  | error cause =>
    cases hquery' : s.query typeName c' with
    | ok found => cases hquery.symm.trans ((hiff found).mpr hquery')
    | error cause' => exact .inr ⟨⟨cause, rfl⟩, cause', rfl⟩

/-- Tags of a genre, asked for twice. -/
def genreTwice : Criterion :=
  .all [.all [], .all [.test "type" (.text "genre"), .test "type" (.text "genre")]]

/-- The genre of a name. -/
def namedGenre : Criterion :=
  .all [.test "value" (.text "rock"), .test "type" (.text "genre")]

/-- A tag of a genre. -/
def genreTag (name : String) : Record :=
  ⟨.ofList [("value", .text name), ("type", .text "genre")]⟩

/-- Two genres and another tag. -/
def genres : Store :=
  (empty Catalog.builtIn).setPartition "tags"
    (((Partition.empty.insert "rock" (genreTag "rock")).insert "art" .empty).insert "jazz"
      (genreTag "jazz"))

theorem genres_queried :
    Conjunctive (some genreTwice) ∧ Conjunctive (some namedGenre) ∧
    tests (some genreTwice) ⊆ tests (some namedGenre) ∧
    genres.query "Tag" (some namedGenre) = .ok [genreTag "rock"] ∧
    (∃ found, genres.query "Tag" (some genreTwice) = .ok found ∧
      [genreTag "rock"].Sublist found ∧ found.length = 2) ∧
    genres.query "Tag" (both (some genreTwice) (some namedGenre)) = .ok [genreTag "rock"] := by
  have htwice : Conjunctive (some genreTwice) := by
    rintro _ ⟨⟩ kind children hmem
    simp [genreTwice, Criterion.all, Criterion.nodes, Criterion.nodesOf] at hmem
    rcases hmem with h | h | h <;> exact h.1
  have hnamed : Conjunctive (some namedGenre) := by
    simp [Conjunctive, namedGenre, Criterion.all, Criterion.nodes, Criterion.nodesOf]
  have hsubset : tests (some genreTwice) ⊆ tests (some namedGenre) := by
    rintro test ⟨_, ⟨⟩, hmem⟩
    refine ⟨namedGenre, rfl, ?_⟩
    simp [genreTwice, namedGenre, Criterion.all, Criterion.nodes, Criterion.nodesOf] at hmem ⊢
    exact .inr hmem
  have hquery : genres.query "Tag" (some genreTwice) =
    .ok [genreTag "rock", genreTag "jazz"] := by rfl
  have hquery' : genres.query "Tag" (some namedGenre) = .ok [genreTag "rock"] := by rfl
  obtain ⟨_, hmore, hshared⟩ := query_depends_on_tests genres "Tag" htwice hnamed
  obtain ⟨found, hfound, hsublist⟩ := hmore hsubset _ hquery'
  refine ⟨htwice, hnamed, hsubset, hquery', ⟨found, hfound, hsublist, ?_⟩, ?_⟩
  · obtain rfl : [genreTag "rock", genreTag "jazz"] = found :=
      Except.ok.inj (hquery.symm.trans hfound)
    rfl
  · exact (hshared _).mpr ⟨_, _, hquery, hquery', by decide +kernel⟩

end Store

end RecordStore
