/-
# RecordStore.Proofs.Json.Structure — the structure of what is written.

A document has a tree of its own: its containers are all closed, its strings have their content, and
its numbers stand there as they are written (`toTree`).  The reader of structures, a machine with a
stack of open containers, finds this tree in the tokens of the document and puts it where a value is
due (`readFrom_tokens`).  So the text of a document has the document's structure, with nothing after
it (`ofString_render`).
-/
import RecordStore.Json.Tree
import RecordStore.Proofs.Json.Scanning

namespace RecordStore.Json

mutual

/-- The tree of a document. -/
def toTree : Json → Tree
  | .null => .null
  | .bool b => .bool b
  | .number n => .number n.chars
  | .text s => .text (some s)
  | .array items => .array (itemTrees items) .closed
  | .object members => .object (memberTrees members) .closed

/-- The trees of the items of an array. -/
def itemTrees : List Json → List Tree
  | [] => []
  | item :: items => toTree item :: itemTrees items

/-- The named trees of the members of an object. -/
def memberTrees : List (String × Json) → List (Option String × Tree)
  | [] => []
  | (name, value) :: members => (some name, toTree value) :: memberTrees members

end

namespace Tree

/-- The tokens read on from where a token has led to. -/
def Outcome.resume : Outcome → List Token → Document
  | .more stack due, rest => readFrom stack due rest
  | .whole tree, rest => ⟨tree, !rest.isEmpty⟩
  | .failed, _ => ⟨.broken, false⟩

/-- Whether a value may stand where the innermost container is open. -/
def TakesValue : List Frame → Prop
  | .members _ :: _ => False
  | _ => True

/-- A place at which a value may begin. -/
def Due.Begins : Due → Prop
  | .value | .itemOrClose => True
  | _ => False

theorem begins_value : Due.value.Begins := trivial

theorem begins_itemOrClose : Due.itemOrClose.Begins := trivial

variable {stack : List Frame} {due : Due}

theorem takesValue_items (done : List Tree) : TakesValue (.items done :: stack) := trivial

theorem takesValue_member (done : List (Option String × Tree)) (name : Option String) :
    TakesValue (.member done name :: stack) := trivial

theorem readFrom_cons_of_advance {t : Token} {o : Outcome} (h : advance stack due t = o)
    (ho : o ≠ .failed) (rest : List Token) : readFrom stack due (t :: rest) = o.resume rest := by
  rw [readFrom, h]
  cases o with
  | failed => exact absurd rfl ho
  | _ => rfl

theorem place_ne_failed (hstack : TakesValue stack) (tree : Tree) : place tree stack ≠ .failed := by
  cases stack with
  | nil => nofun
  | cons frame stack =>
    cases frame with
    | members done => exact hstack.elim
    | _ => nofun

/-- A token that begins a value is taken where a value may begin. -/
theorem advance_of_enter? (hdue : due.Begins) {t : Token} {o : Outcome}
    (h : enter? stack t = some o) : advance stack due t = o := by
  cases due with
  | value => simp [advance, h]
  | itemOrClose => simp [advance, h]
  | _ => exact hdue.elim

/-! ## Documents within open containers -/

theorem readFrom_closeArray (hstack : TakesValue stack) (done : List Tree)
    (hdue : due = .itemOrClose ∨ due = .separator) (rest : List Token) :
    readFrom (.items done :: stack) due (.closeArray :: rest) =
      (place (.array done.reverse .closed) stack).resume rest := by
  have hclose : advance (.items done :: stack) due .closeArray =
      place (.array done.reverse .closed) stack := by
    rcases hdue with rfl | rfl <;> rfl
  exact readFrom_cons_of_advance hclose (place_ne_failed hstack _) rest

theorem readFrom_closeObject (hstack : TakesValue stack) (done : List (Option String × Tree))
    (hdue : due = .nameOrClose ∨ due = .separator) (rest : List Token) :
    readFrom (.members done :: stack) due (.closeObject :: rest) =
      (place (.object done.reverse .closed) stack).resume rest := by
  have hclose : advance (.members done :: stack) due .closeObject =
      place (.object done.reverse .closed) stack := by
    rcases hdue with rfl | rfl <;> rfl
  exact readFrom_cons_of_advance hclose (place_ne_failed hstack _) rest

/-- The name of a member, the colon after it and the value come to the value within the member. -/
theorem readFrom_member (done : List (Option String × Tree)) (name : String)
    (hdue : due = .nameOrClose ∨ due = .name) (rest : List Token) :
    readFrom (.members done :: stack) due (.text (some name) :: .colon :: rest) =
      readFrom (.member done (some name) :: stack) .value rest := by
  rcases hdue with rfl | rfl <;> rfl

mutual

/-- The tokens of a document are read as its tree, which is placed in the innermost open container. -/
theorem readFrom_tokens : ∀ (v : Json) {stack : List Frame} {due : Due}, due.Begins →
    TakesValue stack → ∀ rest : List Token,
      readFrom stack due (v.tokens ++ rest) = (place v.toTree stack).resume rest
  | .null, _, _, hdue, hstack, rest | .bool _, _, _, hdue, hstack, rest
  | .number _, _, _, hdue, hstack, rest | .text _, _, _, hdue, hstack, rest =>
    readFrom_cons_of_advance (advance_of_enter? hdue rfl) (place_ne_failed hstack _) rest
  | .array [], stack, due, hdue, hstack, rest => by
    have hopen : advance stack due .openArray = .more (.items [] :: stack) .itemOrClose :=
      advance_of_enter? hdue rfl
    show readFrom stack due (.openArray :: .closeArray :: rest) = _
    rw [readFrom_cons_of_advance hopen nofun]
    exact readFrom_closeArray hstack [] (.inl rfl) rest
  | .array (item :: items), stack, due, hdue, hstack, rest => by
    have hopen : advance stack due .openArray = .more (.items [] :: stack) .itemOrClose :=
      advance_of_enter? hdue rfl
    rw [tokens, List.cons_append, List.cons_append, List.append_assoc,
      readFrom_cons_of_advance hopen nofun]
    exact (readFrom_tokens item begins_itemOrClose (takesValue_items []) _).trans
      (readFrom_furtherItems items hstack [item.toTree] rest)
  | .object [], stack, due, hdue, hstack, rest => by
    have hopen : advance stack due .openObject = .more (.members [] :: stack) .nameOrClose :=
      advance_of_enter? hdue rfl
    show readFrom stack due (.openObject :: .closeObject :: rest) = _
    rw [readFrom_cons_of_advance hopen nofun]
    exact readFrom_closeObject hstack [] (.inl rfl) rest
  | .object ((name, value) :: members), stack, due, hdue, hstack, rest => by
    have hopen : advance stack due .openObject = .more (.members [] :: stack) .nameOrClose :=
      advance_of_enter? hdue rfl
    rw [tokens, List.cons_append, List.cons_append, List.cons_append, List.cons_append,
      List.append_assoc, readFrom_cons_of_advance hopen nofun]
    refine (readFrom_member [] name (.inl rfl) _).trans ?_
    exact (readFrom_tokens value begins_value (takesValue_member [] (some name)) _).trans
      (readFrom_furtherMembers members hstack [(some name, value.toTree)] rest)

theorem readFrom_furtherItems : ∀ (items : List Json) {stack : List Frame}, TakesValue stack →
    ∀ (done : List Tree) (rest : List Token),
      readFrom (.items done :: stack) .separator (furtherItems items ++ rest) =
        (place (.array (done.reverse ++ itemTrees items) .closed) stack).resume rest
  | [], stack, hstack, done, rest => by
    rw [itemTrees, List.append_nil]
    exact readFrom_closeArray hstack done (.inr rfl) rest
  | item :: items, stack, hstack, done, rest => by
    have hnext := readFrom_furtherItems items hstack (item.toTree :: done) rest
    rw [List.reverse_cons, List.append_assoc, List.singleton_append] at hnext
    rw [furtherItems, List.cons_append, List.cons_append, List.append_assoc]
    exact (readFrom_tokens item begins_value (takesValue_items done) _).trans hnext

theorem readFrom_furtherMembers : ∀ (members : List (String × Json)) {stack : List Frame},
    TakesValue stack → ∀ (done : List (Option String × Tree)) (rest : List Token),
      readFrom (.members done :: stack) .separator (furtherMembers members ++ rest) =
        (place (.object (done.reverse ++ memberTrees members) .closed) stack).resume rest
  | [], stack, hstack, done, rest => by
    rw [memberTrees, List.append_nil]
    exact readFrom_closeObject hstack done (.inr rfl) rest
  | (name, value) :: members, stack, hstack, done, rest => by
    have hnext := readFrom_furtherMembers members hstack ((some name, value.toTree) :: done) rest
    rw [List.reverse_cons, List.append_assoc, List.singleton_append] at hnext
    rw [furtherMembers, List.cons_append, List.cons_append, List.cons_append, List.cons_append,
      List.append_assoc]
    refine (readFrom_member done name (.inr rfl) _).trans ?_
    exact (readFrom_tokens value begins_value (takesValue_member done (some name)) _).trans hnext

end

theorem ofTokens_tokens (v : Json) : ofTokens v.tokens = ⟨v.toTree, false⟩ := by
  have h := readFrom_tokens v begins_value (show TakesValue [] from trivial) []
  rw [List.append_nil] at h
  exact h

end Tree

/-! ## Texts -/

/-- The text of a document has the structure of the document, and nothing follows it. -/
theorem ofString_render (v : Json) : Document.ofString v.render = ⟨v.toTree, false⟩ := by
  rw [Document.ofString, render, String.toList_ofList, Document.ofSymbols, scan_chars]
  exact Tree.ofTokens_tokens v

end RecordStore.Json
