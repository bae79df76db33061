/-
# RecordStore.Proofs.Rpc.Decoding — which bodies hold calls.

A call in the form of an object has one string `service` and one string `method`, and at most one
`id`, a value of any kind, and one `params`, an array; its other members need only be well formed
(`DescribedBy`).  In the form of an array it has these in order, and `params` may be left out
(`Describes`).

The reader goes through the members one by one and fills a draft.  What it has done to a field of the
draft is said by the trees of this name alone: nothing if there are none, and one reading if there is
one (`Taken`).  So reading succeeds on just the trees that describe a call (`read_eq_ok_iff`), and a
request holds a call if its content is called JSON, is not too long and is the text of such a tree
(`ofHttp_eq_ok_iff`).
-/
import RecordStore.Error
import RecordStore.Rpc.Request

namespace RecordStore.Rpc

open Json (Tree Fault Ending)

/-! ## Members by name -/

/-- The trees of the members of a name, in order. -/
def membersNamed (name : String) (members : List (Option String × Tree)) : List Tree :=
  members.filterMap fun m => if m.1 = some name then some m.2 else none

theorem membersNamed_cons_self (name : String) (tree : Tree)
    (members : List (Option String × Tree)) :
    membersNamed name ((some name, tree) :: members) = tree :: membersNamed name members := by
  simp [membersNamed]

theorem membersNamed_cons_of_ne {name other : String} (h : other ≠ name) (tree : Tree)
    (members : List (Option String × Tree)) :
    membersNamed name ((some other, tree) :: members) = membersNamed name members := by
  simp [membersNamed, h]

/-- What the trees of one name make of a field that may be read once. -/
inductive Taken {α : Type} (read : Tree → Except Fault α) : Option α → List Tree → Option α → Prop
  | unchanged (earlier : Option α) : Taken read earlier [] earlier
  | once {tree : Tree} {a : α} (h : read tree = .ok a) : Taken read none [tree] (some a)

theorem taken_cons_iff {α : Type} {read : Tree → Except Fault α} {earlier later : Option α}
    {tree : Tree} {trees : List Tree} :
    Taken read earlier (tree :: trees) later ↔
      earlier = none ∧ ∃ a, read tree = .ok a ∧ Taken read (some a) trees later := by
  constructor
  · rintro (_ | h)
    exact ⟨rfl, _, h, .unchanged _⟩
  · rintro ⟨rfl, a, h, _ | _⟩
    exact .once h

/-- A field that is read once goes on with what was read. -/
theorem once_bind_eq_ok_iff {α β : Type} {name : String} {earlier : Option α}
    {read : Except Fault α} {f : Option α → Except Fault β} {b : β} :
    (Json.once name earlier read >>= f) = .ok b ↔
      earlier = none ∧ ∃ a, read = .ok a ∧ f (some a) = .ok b := by
  rw [bind_eq_ok_iff]
  unfold Json.once
  cases earlier with
  | some a => simp
  | none => cases read <;> simp [Except.map]

/-! ## Drafts -/

/-- The names of the fields of a call. -/
def fieldNames : List String := ["id", "service", "method", "params"]

/-- What the members of an object make of a draft, field by field. -/
structure Draft.Takes (d : Draft) (members : List (Option String × Tree)) (d' : Draft) :
    Prop where
  named : ∀ m ∈ members, m.1.isSome
  id : Taken readId d.id (membersNamed "id" members) d'.id
  service : Taken Json.readText d.service (membersNamed "service" members) d'.service
  method : Taken Json.readText d.method (membersNamed "method" members) d'.method
  params : Taken readParams d.params (membersNamed "params" members) d'.params
  others : ∀ m ∈ members, (∀ name ∈ fieldNames, m.1 ≠ some name) → m.2.complete = true

namespace Draft

theorem takes_nil_iff {d d' : Draft} : d.Takes [] d' ↔ d = d' := by
  constructor
  · rintro ⟨_, hid, hservice, hmethod, hparams, _⟩
    obtain ⟨id, service, method, params⟩ := d
    obtain ⟨id', service', method', params'⟩ := d'
    cases hid
    cases hservice
    cases hmethod
    cases hparams
    rfl
  · rintro rfl
    exact ⟨nofun, .unchanged _, .unchanged _, .unchanged _, .unchanged _, nofun⟩

theorem skip_bind_eq_ok_iff {tree : Tree} {d next : Draft} :
    (do Json.skip tree; return d) = Except.ok next ↔ tree.complete = true ∧ d = next := by
  unfold Json.skip
  split <;> simp_all [bind, Except.bind, pure, Except.pure]

theorem takes_iff {d d' : Draft} {members : List (Option String × Tree)} :
    d.Takes members d' ↔ (∀ m ∈ members, m.1.isSome) ∧
      Taken readId d.id (membersNamed "id" members) d'.id ∧
      Taken Json.readText d.service (membersNamed "service" members) d'.service ∧
      Taken Json.readText d.method (membersNamed "method" members) d'.method ∧
      Taken readParams d.params (membersNamed "params" members) d'.params ∧
      ∀ m ∈ members, (∀ name ∈ fieldNames, m.1 ≠ some name) → m.2.complete = true :=
  ⟨fun ⟨hn, hid, hs, hm, hp, ho⟩ => ⟨hn, hid, hs, hm, hp, ho⟩,
    fun ⟨hn, hid, hs, hm, hp, ho⟩ => ⟨hn, hid, hs, hm, hp, ho⟩⟩

/-- One more member is taken exactly by the step of the reader. -/
theorem takes_cons_iff {d d' : Draft} {name : String} {tree : Tree}
    {members : List (Option String × Tree)} :
    d.Takes ((some name, tree) :: members) d' ↔
      ∃ next, d.take name tree = .ok next ∧ next.Takes members d' := by
  by_cases hname : name ∈ fieldNames
  · simp only [fieldNames, List.mem_cons, List.not_mem_nil, or_false] at hname
    rcases hname with rfl | rfl | rfl | rfl <;>
      simp only [take, ↓reduceIte, String.reduceEq, once_bind_eq_ok_iff, pure, Except.pure,
        Except.ok.injEq, takes_iff, membersNamed_cons_self, taken_cons_iff, fieldNames,
        membersNamed_cons_of_ne, ne_eq, not_false_eq_true, List.mem_cons, forall_eq_or_imp,
        List.not_mem_nil, or_false, forall_eq, Option.isSome_some, Option.some.injEq, true_and,
        Prod.forall] <;>
      grind
  · simp only [fieldNames, List.mem_cons, List.not_mem_nil, or_false, not_or] at hname
    simp only [take, hname, ↓reduceIte, skip_bind_eq_ok_iff, takes_iff, membersNamed_cons_of_ne,
      ne_eq, not_false_eq_true, fieldNames, List.mem_cons, forall_eq_or_imp, List.not_mem_nil,
      or_false, forall_eq, Option.isSome_some, Option.some.injEq, true_and, Prod.forall]
    grind

end Draft

theorem takeMembers_eq_ok_iff {d d' : Draft} {members : List (Option String × Tree)} :
    Json.takeMembers Draft.take d members = .ok d' ↔ d.Takes members d' := by
  induction members generalizing d with
  | nil => rw [Json.takeMembers, Except.ok.injEq, Draft.takes_nil_iff]
  | cons m rest ih =>
    obtain ⟨name | name, tree⟩ := m
    · refine ⟨nofun, fun h => ?_⟩
      exact absurd (h.named _ List.mem_cons_self) Bool.false_ne_true
    · rw [Draft.takes_cons_iff, Json.takeMembers, Json.readName]
      simp only [bind_eq_ok_iff, Except.ok.injEq, exists_eq_left', ih]

/-! ## Calls -/

/-- What the trees that are given for a part say it is: the default if there are none, and what one
is read as if there is one. -/
inductive Given {α : Type} (read : Tree → Except Fault α) (default : α) : List Tree → α → Prop
  | absent : Given read default [] default
  | present {tree : Tree} {a : α} (h : read tree = .ok a) : Given read default [tree] a

theorem given_iff {α : Type} {read : Tree → Except Fault α} {default a : α} {trees : List Tree} :
    Given read default trees a ↔ ∃ a?, Taken read none trees a? ∧ a?.getD default = a := by
  constructor
  · rintro (_ | h)
    · exact ⟨none, .unchanged _, rfl⟩
    · exact ⟨some _, .once h, rfl⟩
  · rintro ⟨_, _ | h, rfl⟩
    · exact .absent
    · exact .present h

/-- The members are those of a call: a string for the service and one for the method, at most one
id and at most one list of parameters, and others that are well formed. -/
structure DescribedBy (members : List (Option String × Tree)) (call : Request) : Prop where
  named : ∀ m ∈ members, m.1.isSome
  service : membersNamed "service" members = [.text (some call.service)]
  method : membersNamed "method" members = [.text (some call.method)]
  id : Given readId .null (membersNamed "id" members) call.id
  params : Given readParams [] (membersNamed "params" members) call.params
  others : ∀ m ∈ members, (∀ name ∈ fieldNames, m.1 ≠ some name) → m.2.complete = true

/-- The tree is that of a call, in the form of an object or of an array. -/
inductive Describes : Tree → Request → Prop
  | members {members : List (Option String × Tree)} {call : Request}
      (h : DescribedBy members call) : Describes (.object members .closed) call
  | items {first : Tree} {rest : List Tree} {call : Request} (hid : readId first = .ok call.id)
      (hparams : Given readParams [] rest call.params) :
      Describes (.array (first :: .text (some call.service) :: .text (some call.method) :: rest)
        .closed) call

theorem readText_eq_ok_iff {tree : Tree} {s : String} :
    Json.readText tree = .ok s ↔ tree = .text (some s) := by
  unfold Json.readText
  split <;> simp_all

theorem readEnding_eq_ok_iff {ending : Ending} {u : Unit} :
    Json.readEnding ending = .ok u ↔ ending = .closed := by
  cases ending <;> simp [Json.readEnding]

theorem Draft.complete_eq_ok_iff {d : Draft} {call : Request} :
    d.complete = .ok call ↔ d.service = some call.service ∧ d.method = some call.method ∧
      d.id.getD .null = call.id ∧ d.params.getD [] = call.params := by
  obtain ⟨id, service, method, params⟩ := d
  obtain ⟨id', service', method', params'⟩ := call
  cases service <;> cases method <;>
    simp [Draft.complete, Json.required, bind, Except.bind, pure, Except.pure]
  grind

theorem taken_text_iff {trees : List Tree} {s : String} :
    Taken Json.readText none trees (some s) ↔ trees = [.text (some s)] := by
  constructor
  · rintro (_ | h)
    rw [readText_eq_ok_iff.mp h]
  · rintro rfl
    exact .once rfl

/-- The members that can be read as a call are those of a call. -/
theorem members_read_iff {members : List (Option String × Tree)} {call : Request} :
    (∃ d, Json.takeMembers Draft.take .blank members = .ok d ∧ d.complete = .ok call) ↔
      DescribedBy members call := by
  simp only [takeMembers_eq_ok_iff, Draft.complete_eq_ok_iff]
  constructor
  · rintro ⟨d, ⟨hnamed, hid, hservice, hmethod, hparams, hothers⟩, hs, hm, hi, hp⟩
    rw [hs] at hservice
    rw [hm] at hmethod
    exact ⟨hnamed, taken_text_iff.mp hservice, taken_text_iff.mp hmethod,
      given_iff.mpr ⟨_, hid, hi⟩, given_iff.mpr ⟨_, hparams, hp⟩, hothers⟩
  · rintro ⟨hnamed, hservice, hmethod, hid, hparams, hothers⟩
    obtain ⟨id, hid, hi⟩ := given_iff.mp hid
    obtain ⟨params, hparams, hp⟩ := given_iff.mp hparams
    exact ⟨⟨id, some call.service, some call.method, params⟩,
      ⟨hnamed, hid, taken_text_iff.mpr hservice, taken_text_iff.mpr hmethod, hparams, hothers⟩,
      rfl, rfl, hi, hp⟩

theorem describes_array_iff {items : List Tree} {ending : Ending} {call : Request} :
    Describes (.array items ending) call ↔ ∃ first rest, readId first = .ok call.id ∧
      Given readParams [] rest call.params ∧ ending = .closed ∧
      items = first :: .text (some call.service) :: .text (some call.method) :: rest := by
  constructor
  · rintro (_ | ⟨hid, hparams⟩)
    exact ⟨_, _, hid, hparams, rfl, rfl⟩
  · rintro ⟨first, rest, hid, hparams, rfl, rfl⟩
    exact .items hid hparams

/-- The items that can be read as a call are those of a call. -/
theorem readItems_eq_ok_iff {items : List Tree} {ending : Ending} {call : Request} :
    readItems items ending = .ok call ↔ Describes (.array items ending) call := by
  obtain ⟨id, service, method, params⟩ := call
  rw [describes_array_iff]
  unfold readItems
  -- Fewer than three items lack the method, and more than four are too many.
  match items with
  | [] | [_] | [_, _] =>
    simp [bind_eq_ok_iff, Json.itemAt?, readEnding_eq_ok_iff, needed, readText_eq_ok_iff, pure,
      Except.pure]
  | [_, _, _] | [_, _, _, _] | _ :: _ :: _ :: _ :: _ :: _ =>
    simp only [Json.itemAt?, List.getElem?_cons_zero, List.getElem?_cons_succ, List.getElem?_nil,
      needed, Json.readItemsEnd, List.length_cons, List.length_nil, Nat.reduceAdd,
      Nat.reduceLeDiff, ↓reduceIte, pure, Except.pure, bind_assoc, bind_eq_ok_iff,
      Except.ok.injEq, exists_eq_left', readText_eq_ok_iff, readEnding_eq_ok_iff,
      Request.mk.injEq, List.cons.injEq]
    grind [Given]

/-- A tree can be read as a call exactly if it is that of the call. -/
theorem read_eq_ok_iff {tree : Tree} {call : Request} :
    read tree = .ok call ↔ Describes tree call := by
  cases tree with
  | object members ending =>
    rw [read]
    simp only [bind_eq_ok_iff, readEnding_eq_ok_iff]
    constructor
    · rintro ⟨d, hd, -, rfl, hcall⟩
      exact .members (members_read_iff.mp ⟨d, hd, hcall⟩)
    · rintro (h | _)
      obtain ⟨d, hd, hcall⟩ := members_read_iff.mpr h
      exact ⟨d, hd, (), rfl, hcall⟩
  | array items ending => exact readItems_eq_ok_iff
  | _ => exact ⟨nofun, nofun⟩

theorem ofDocument_eq_ok_iff {d : Json.Document} {call : Request} :
    ofDocument d = .ok call ↔ ∃ tree, d = ⟨tree, false⟩ ∧ Describes tree call := by
  obtain ⟨tree, trailing⟩ := d
  cases trailing <;>
    simp [ofDocument, bind_eq_ok_iff, Json.readEnd, read_eq_ok_iff, pure, Except.pure]

/-! ## Bodies -/

/-- A request holds a call: its content is called JSON and is not too long, and its body is the text
of the call. -/
structure Holds (r : Http.Request) (call : Request) : Prop where
  content : (r.headerText? "content-type").any Http.MediaType.isJson = true
  length : r.body.length ≤ bodyLimit
  body : ∃ tree, Json.Document.ofSymbols (Text.Utf8.decode r.body) = ⟨tree, false⟩ ∧
    Describes tree call

/-- The calls that can be read out of requests are the calls that requests hold. -/
theorem ofHttp_eq_ok_iff {r : Http.Request} {call : Request} :
    Request.ofHttp r = .ok call ↔ Holds r call := by
  unfold Request.ofHttp
  split
  · next hcontent =>
    exact ⟨nofun, fun h => absurd h.content (by simpa using hcontent)⟩
  · next hcontent =>
    split
    · next hlength => exact ⟨nofun, fun h => absurd h.length (by omega)⟩
    · next hlength =>
      rw [mapError_eq_ok_iff, ofDocument_eq_ok_iff]
      exact ⟨fun h => ⟨by simpa using hcontent, by omega, h⟩, fun h => h.body⟩

/-- Which call a request holds, if any, can be computed. -/
theorem holds_iff {r : Http.Request} {call : Request} :
    Holds r call ↔ (Request.ofHttp r).toOption = some call := by
  rw [← ofHttp_eq_ok_iff]
  cases Request.ofHttp r <;> simp [Except.toOption]

theorem exists_holds_iff {r : Http.Request} :
    (∃ call, Holds r call) ↔ (Request.ofHttp r).toOption.isSome = true := by
  simp only [holds_iff, Option.isSome_iff_exists]

instance (r : Http.Request) (call : Request) : Decidable (Holds r call) :=
  decidable_of_iff _ holds_iff.symm

instance (r : Http.Request) : Decidable (∃ call, Holds r call) :=
  decidable_of_iff _ exists_holds_iff.symm

end RecordStore.Rpc
