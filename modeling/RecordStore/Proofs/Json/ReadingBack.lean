/-
# RecordStore.Proofs.Json.ReadingBack — what is written is read back.

A document of texts, truth values and whole numbers is read back from its text as it was, and all that
the reader asks is that it does not nest too deeply: with room for `room` containers it reads just the
documents of a depth of `room` at most, and refuses the others as unreadable (`ofTree?_toTree`).

Readers of larger structures inherit this.  `ReadsBack` says it of one reader, one way of writing and
one thing that is written, and `readsBack_map` takes it from the values of a map to the map.  Each
level of structure takes up one container.

Doubles are left out: they are written in decimals, and whether these round back to the same double is
a question about numbers and not about documents.
-/
import Mathlib.Data.List.TakeWhile
import RecordStore.Json.Reader
import RecordStore.Proofs.Json.Structure
import RecordStore.Proofs.NameMap

namespace RecordStore

/-! ## Whole numbers -/

namespace Number.Numeral

/-- The digits of a number are its numeral, with or without a minus sign. -/
theorem ofChars?_digits (n : Nat) :
    ofChars? (Decimal.digits n) = some ⟨false, Decimal.digits n, none, none⟩ ∧
      ofChars? ('-' :: Decimal.digits n) = some ⟨true, Decimal.digits n, none, none⟩ := by
  have hall := Decimal.all_isDigit_digits n
  have hne := Decimal.digits_ne_nil n
  generalize Decimal.digits n = run at hall hne
  have hsign : sign run = (false, run) := by
    unfold sign
    split
    · simp [Char.isDigit] at hall
    · simp [Char.isDigit] at hall
    · rfl
  have hminus : sign ('-' :: run) = (true, run) := rfl
  have htake : run.takeWhile Char.isDigit = run :=
    List.takeWhile_eq_self_iff.mpr (List.all_eq_true.mp hall)
  have hdrop : run.dropWhile Char.isDigit = [] :=
    List.dropWhile_eq_nil_iff.mpr (List.all_eq_true.mp hall)
  constructor
  · simp [ofChars?, hsign, htake, hdrop, hne, tailOfChars?]
  · simp [ofChars?, hminus, htake, hdrop, hne, tailOfChars?]

end Number.Numeral

namespace Json

namespace Number

/-- A numeral without fraction and exponent stands for its number, unless it is a negative zero. -/
theorem ofNumeral?_whole {negative : Bool} {run : List Char} {n : Int} (fits : FitsWord n)
    (hvalue : (if negative then -(RecordStore.Number.Decimal.value run : Int)
      else RecordStore.Number.Decimal.value run) = n)
    (hzero : ¬ (negative = true ∧ (RecordStore.Number.Decimal.value run : Int) = 0)) :
    ofNumeral? ⟨negative, run, none, none⟩ = some (.integer n fits) := by
  subst hvalue
  exact dif_pos ⟨⟨rfl, rfl, hzero⟩, fits⟩

/-- A whole number is read back from its text. -/
theorem ofLexeme?_chars_integer (n : Int) (fits : FitsWord n) :
    ofLexeme? (Json.Number.integer n fits).chars = some (.integer n fits) := by
  obtain ⟨hplain, hminus⟩ := RecordStore.Number.Numeral.ofChars?_digits n.natAbs
  have hvalue := RecordStore.Number.Decimal.value_digits n.natAbs
  unfold chars ofLexeme?
  dsimp only
  split
  · rw [hminus, Option.bind_some]
    apply ofNumeral?_whole
    · rw [if_pos rfl, hvalue]
      omega
    · rw [hvalue]
      omega
  · rw [hplain, Option.bind_some]
    apply ofNumeral?_whole
    · rw [if_neg Bool.false_ne_true, hvalue]
      omega
    · exact fun hzero => Bool.false_ne_true hzero.1

end Number

/-! ## Documents -/

mutual

/-- The number of containers that a document nests. -/
def depth : Json → Nat
  | .null | .bool _ | .number _ | .text _ => 0
  | .array items => depthOfItems items + 1
  | .object members => depthOfMembers members + 1

/-- The number of containers that the deepest of some items nests. -/
def depthOfItems : List Json → Nat
  | [] => 0
  | item :: items => max (depth item) (depthOfItems items)

/-- The number of containers that the deepest of some members nests. -/
def depthOfMembers : List (String × Json) → Nat
  | [] => 0
  | (_, value) :: members => max (depth value) (depthOfMembers members)

end

mutual

/-- Whether all numbers of a document are whole. -/
def hasNoFloat : Json → Bool
  | .number (.float _ _) => false
  | .array items => itemsHaveNoFloat items
  | .object members => membersHaveNoFloat members
  | _ => true

/-- Whether all numbers of some items are whole. -/
def itemsHaveNoFloat : List Json → Bool
  | [] => true
  | item :: items => hasNoFloat item && itemsHaveNoFloat items

/-- Whether all numbers of some members are whole. -/
def membersHaveNoFloat : List (String × Json) → Bool
  | [] => true
  | (_, value) :: members => hasNoFloat value && membersHaveNoFloat members

end

/-- Two parts, each read where there is room for it, are read together where there is room for the
deeper one. -/
theorem bind_if_room {α β γ : Type} {a : α} {b : β} {room m n : Nat} (f : α → β → γ) :
    (do
      let x ← (if m ≤ room then some a else none)
      let y ← (if n ≤ room then some b else none)
      return f x y) = if max m n ≤ room then some (f a b) else none := by
  by_cases hm : m ≤ room
  · by_cases hn : n ≤ room
    · rw [if_pos hm, if_pos hn, if_pos (Nat.max_le.mpr ⟨hm, hn⟩)]
      rfl
    · rw [if_pos hm, if_neg hn, if_neg (fun hmax => hn (Nat.max_le.mp hmax).2)]
      rfl
  · rw [if_neg hm, if_neg (fun hmax => hm (Nat.max_le.mp hmax).1)]
    rfl

mutual

/-- A document without doubles is read back from its tree if there is room for it. -/
theorem ofTree?_toTree : ∀ (v : Json), v.hasNoFloat = true → ∀ room : Nat,
    ofTree? room v.toTree = if v.depth ≤ room then some v else none
  | .null, _, room | .bool _, _, room | .text _, _, room => by
    rw [depth, if_pos (Nat.zero_le room)]
    cases room <;> rfl
  | .number (.integer n fits), _, room => by
    have hnumber := congrArg (Option.map Json.number) (Number.ofLexeme?_chars_integer n fits)
    rw [depth, if_pos (Nat.zero_le room)]
    cases room <;> exact hnumber
  | .number (.float _ _), h, _ => by cases h
  | .array items, h, 0 => by
    rw [depth, if_neg (Nat.not_succ_le_zero _)]
    rfl
  | .array items, h, room + 1 => by
    rw [toTree, ofTree?, itemsOfTrees?_itemTrees items h room, depth]
    by_cases hitems : depthOfItems items ≤ room
    · rw [if_pos hitems, if_pos (Nat.succ_le_succ hitems)]
      rfl
    · rw [if_neg hitems, if_neg (hitems ∘ Nat.le_of_succ_le_succ)]
      rfl
  | .object members, h, 0 => by
    rw [depth, if_neg (Nat.not_succ_le_zero _)]
    rfl
  | .object members, h, room + 1 => by
    rw [toTree, ofTree?, membersOfTrees?_memberTrees members h room, depth]
    by_cases hmembers : depthOfMembers members ≤ room
    · rw [if_pos hmembers, if_pos (Nat.succ_le_succ hmembers)]
      rfl
    · rw [if_neg hmembers, if_neg (hmembers ∘ Nat.le_of_succ_le_succ)]
      rfl

theorem itemsOfTrees?_itemTrees : ∀ (items : List Json), itemsHaveNoFloat items = true →
    ∀ room : Nat, itemsOfTrees? room (itemTrees items) =
      if depthOfItems items ≤ room then some items else none
  | [], _, room => by
    rw [depthOfItems, if_pos (Nat.zero_le room)]
    rfl
  | item :: items, h, room => by
    rw [itemsHaveNoFloat, Bool.and_eq_true] at h
    rw [itemTrees, itemsOfTrees?, ofTree?_toTree item h.1 room,
      itemsOfTrees?_itemTrees items h.2 room, depthOfItems]
    exact bind_if_room List.cons

theorem membersOfTrees?_memberTrees : ∀ (members : List (String × Json)),
    membersHaveNoFloat members = true → ∀ room : Nat,
      membersOfTrees? room (memberTrees members) =
        if depthOfMembers members ≤ room then some members else none
  | [], _, room => by
    rw [depthOfMembers, if_pos (Nat.zero_le room)]
    rfl
  | (name, value) :: members, h, room => by
    rw [membersHaveNoFloat, Bool.and_eq_true] at h
    rw [memberTrees, membersOfTrees?, ofTree?_toTree value h.1 room,
      membersOfTrees?_memberTrees members h.2 room, depthOfMembers]
    exact bind_if_room fun value members => (name, value) :: members

end

/-! ## Readers of structures -/

section Readers

variable {α β : Type} {read : Tree → Except Fault α} {write : α → Json} {room : Nat} {a : α}

/-- A reader with room for some containers reads back what has been written, or finds it unreadable
where it nests deeper. -/
def ReadsBack (read : Tree → Except Fault α) (write : α → Json) (room : Nat) (a : α) : Prop :=
  read (write a).toTree = if (write a).depth ≤ room then .ok a else .error .unreadable

theorem readsBack_value {v : Value} (h : v.json.hasNoFloat = true) (room : Nat) :
    ReadsBack (readValue room) Value.json room v := by
  rw [ReadsBack, readValue, ofTree?_toTree v.json h]
  by_cases hdepth : v.json.depth ≤ room
  · rw [if_pos hdepth, if_pos hdepth]
    exact congrArg Except.ok v.ofJson_json
  · rw [if_neg hdepth, if_neg hdepth]

/-- Giving what was read another form keeps what is read back. -/
theorem ReadsBack.map (h : ReadsBack read write room a) {f : α → β} {write' : β → Json}
    (hwrite : write' (f a) = write a) :
    ReadsBack (fun tree => do let a ← read tree; return f a) write' room (f a) := by
  show (read (write' (f a)).toTree >>= _) = _
  rw [hwrite, h]
  split <;> rfl

theorem readMembers_memberTrees {l : List (String × α)}
    (h : ∀ e ∈ l, ReadsBack read write room e.2) :
    readMembers read (memberTrees (l.map fun e => (e.1, write e.2))) =
      if depthOfMembers (l.map fun e => (e.1, write e.2)) ≤ room then .ok l
      else .error .unreadable := by
  induction l with
  | nil => rfl
  | cons e l ih =>
    obtain ⟨hfirst, hrest⟩ := List.forall_mem_cons.mp h
    rw [List.map_cons, memberTrees, readMembers, hfirst, ih hrest, depthOfMembers]
    by_cases hvalue : (write e.2).depth ≤ room
    · by_cases hmembers : depthOfMembers (l.map fun e => (e.1, write e.2)) ≤ room
      · rw [if_pos hvalue, if_pos hmembers, if_pos (Nat.max_le.mpr ⟨hvalue, hmembers⟩)]
        rfl
      · rw [if_pos hvalue, if_neg hmembers, if_neg (fun hmax => hmembers (Nat.max_le.mp hmax).2)]
        rfl
    · rw [if_neg hvalue, if_neg (fun hmax => hvalue (Nat.max_le.mp hmax).1)]
      rfl

/-- A map is read back if its values are, with room for one container more. -/
theorem readsBack_map {m : NameMap α} (h : ∀ e ∈ m.entries, ReadsBack read write room e.2) :
    ReadsBack (readMap read) (fun m => .object (m.entries.map fun e => (e.1, write e.2)))
      (room + 1) m := by
  show (readMembers read (memberTrees (m.entries.map fun e => (e.1, write e.2))) >>= _) = _
  rw [readMembers_memberTrees h, depth]
  by_cases hmembers : depthOfMembers (m.entries.map fun e => (e.1, write e.2)) ≤ room
  · rw [if_pos hmembers, if_pos (Nat.succ_le_succ hmembers)]
    exact congrArg Except.ok m.ofList_entries
  · rw [if_neg hmembers, if_neg (hmembers ∘ Nat.le_of_succ_le_succ)]
    rfl

end Readers

end Json

end RecordStore
