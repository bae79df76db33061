/-
# RecordStore.Http.PathPattern — patterns that paths are matched against.

A pattern is a path in which some parts may vary.  A name between braces stands for a segment, or
for the rest of one: after it the pattern ends or goes on with a solidus.  A name behind an
asterisk stands for all the rest of a path, and ends the pattern.  A brace that belongs to the
path is written twice.  What a name is does not matter, and it may recur; a solidus is no more than
the first character of one, a closing brace is not the first.

What varies at the end of a path is not empty; a segment further in front may be.  Paths are
compared as they stand, character by character, so a pattern without braces admits itself and
nothing else (`admits_iff_eq`).
-/

namespace RecordStore.Http

/-- A part of a pattern: a character that stands for itself, what is left of a segment, or what is
left of a path. -/
inductive PathPattern.Part where
  | literal (c : Char)
  | segment
  | tail
deriving DecidableEq

/-- A pattern of paths. -/
structure PathPattern where
  parts : List PathPattern.Part
deriving DecidableEq

namespace PathPattern

/-! ## Reading -/

/-- A character of a pattern, or a brace around a name. -/
inductive Mark where
  | plain (c : Char)
  | opening
  | closing
deriving DecidableEq

/-- The marks of a text, in which a brace that is written twice is a character. -/
def marks : List Char → List Mark
  | [] => []
  | '\x7b' :: '\x7b' :: rest => .plain '\x7b' :: marks rest
  | '\x7d' :: '\x7d' :: rest => .plain '\x7d' :: marks rest
  | '\x7b' :: rest => .opening :: marks rest
  | '\x7d' :: rest => .closing :: marks rest
  | c :: rest => .plain c :: marks rest

/-- How far a pattern has been read: outside of names, behind an opening brace, within the name of a
part, of which there is something or nothing yet, or behind the closing brace of a part. -/
inductive Phase where
  | outside
  | opened
  | name (part : Part) (some : Bool)
  | closed (part : Part)
deriving DecidableEq

/-- The parts that marks read from a phase on make up, if they do. -/
def partsFrom : Phase → List Mark → Option (List Part)
  | .outside, [] => some []
  | .closed _, [] => some []
  | _, [] => none
  | .outside, .plain c :: rest => (partsFrom .outside rest).map (.literal c :: ·)
  | .outside, .opening :: rest => partsFrom .opened rest
  | .outside, .closing :: _ => none
  | .opened, .closing :: _ => none
  | .opened, mark :: rest =>
    if mark = .plain '*' then partsFrom (.name .tail false) rest
    else if mark = .plain '\x7d' then none
    else partsFrom (.name .segment true) rest
  | .name part named, .closing :: rest =>
    if named then (partsFrom (.closed part) rest).map (part :: ·) else none
  | .name part _, mark :: rest =>
    if mark = .plain '*' ∨ mark = .plain '/' then none else partsFrom (.name part true) rest
  | .closed part, mark :: rest =>
    if part = .segment ∧ mark = .plain '/' then
      (partsFrom .outside rest).map (.literal '/' :: ·)
    else none

/-- Whether a segment of a text begins with a colon or an asterisk.  No pattern has such a one:
elsewhere these two mark a name, and would be taken for that. -/
def hasForeignName : List Char → Bool
  | '/' :: c :: rest => c = ':' || c = '*' || hasForeignName (c :: rest)
  | _ :: rest => hasForeignName rest
  | [] => false

/-- The pattern that a text writes. -/
def ofText? (text : List Char) : Option PathPattern :=
  if text.head? = some '/' ∧ hasForeignName text = false then
    (partsFrom .outside (marks text)).map PathPattern.mk
  else none

/-- The pattern that a string writes. -/
def ofString? (text : String) : Option PathPattern := ofText? text.toList

/-! ## Matching -/

/-- Whether a path has the parts of a pattern. -/
def hasParts : List Part → List Char → Bool
  | [], path => path.isEmpty
  | .literal _ :: _, [] => false
  | .literal c :: parts, d :: rest => c = d && hasParts parts rest
  | [.segment], path => !path.isEmpty && path.all (· ≠ '/')
  | .segment :: parts, path => hasParts parts (path.dropWhile (· ≠ '/'))
  | .tail :: _, path => !path.isEmpty

/-- Whether a pattern admits a path. -/
def admits (p : PathPattern) (path : String) : Bool := hasParts p.parts path.toList

/-! ## Patterns without braces -/

/-- A text without braces consists of characters only. -/
theorem marks_eq_map {text : List Char} (h : ∀ c ∈ text, c ≠ '\x7b' ∧ c ≠ '\x7d') :
    marks text = text.map .plain := by
  induction text with
  | nil => rfl
  | cons c rest ih =>
    obtain ⟨ho, hc⟩ := h c List.mem_cons_self
    have hrest := ih fun d hd => h d (List.mem_cons_of_mem _ hd)
    rw [marks, hrest, List.map_cons]
    all_goals simp_all

theorem partsFrom_map_plain (text : List Char) :
    partsFrom .outside (text.map .plain) = some (text.map .literal) := by
  induction text with
  | nil => rfl
  | cons c rest ih => simp [partsFrom, ih]

theorem hasParts_map_literal (text path : List Char) :
    hasParts (text.map .literal) path = true ↔ path = text := by
  induction text generalizing path with
  | nil => cases path <;> simp [hasParts]
  | cons c rest ih =>
    cases path with
    | nil => simp [hasParts]
    | cons d path =>
      rw [List.map_cons, hasParts, Bool.and_eq_true, decide_eq_true_eq, ih, List.cons.injEq]
      constructor <;> rintro ⟨rfl, rfl⟩ <;> exact ⟨rfl, rfl⟩

/-- A pattern without braces admits itself and nothing else. -/
theorem admits_iff_eq {text path : String} {p : PathPattern}
    (h : ∀ c ∈ text.toList, c ≠ '\x7b' ∧ c ≠ '\x7d') (hp : ofString? text = some p) :
    p.admits path = true ↔ path = text := by
  rw [ofString?, ofText?, marks_eq_map h, partsFrom_map_plain] at hp
  split at hp
  · cases hp
    rw [admits, hasParts_map_literal, String.toList_inj]
  · cases hp

/-- The last segment of a path is not empty, one in front of it may be; a rest takes any number of
segments, a doubled brace is one, and a name may begin with a solidus. -/
example :
    (ofString? "/\x7bname\x7d").map (·.admits "/") = some false ∧
      (ofString? "/\x7bname\x7d/calls").map (·.admits "//calls") = some true ∧
      (ofString? "/v\x7bn\x7d").map (·.admits "/v1/") = some false ∧
      (ofString? "/\x7b*rest\x7d").map (·.admits "/a/b/") = some true ∧
      (ofString? "/\x7b\x7bname\x7d\x7d").map (·.admits "/\x7bname\x7d") = some true ∧
      (ofString? "/v\x7b/n\x7d").map (·.admits "/v1") = some true ∧
      ofString? "/\x7bname\x7dcalls" = none ∧
      ofString? "/\x7bn/\x7d" = none := by decide +kernel

end PathPattern

end RecordStore.Http
