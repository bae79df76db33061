/-
# RecordStore.Files — files by their paths.

A path goes from directory to directory, with a solidus after each, and at last to a file.  What can
be read are the files of a working directory.  No directory lies in it, and the directories around
it are taken to hold no files.

A path fails for the first of these reasons: it holds a null character; it is too long; it is
empty; one of its steps, taken in order, goes on from a file, has too long a name, or finds
nothing; it ends at a directory.  Lengths are those of the encoded text.
-/

namespace RecordStore

/-- The texts of the files of the working directory, by name. -/
abbrev Files := String → Option String

namespace Files

/-- Why nothing can be read from a path. -/
inductive Fault where
  | holdsNull
  | tooLong
  | notFound
  | notDirectory
  | isDirectory
deriving DecidableEq

/-- The wording of a fault. -/
def Fault.message : Fault → String
  | .holdsNull => "file name contained an unexpected NUL byte"
  | .tooLong => "File name too long (os error 36)"
  | .notFound => "No such file or directory (os error 2)"
  | .notDirectory => "Not a directory (os error 20)"
  | .isDirectory => "Is a directory (os error 21)"

/-- The greatest length of a path. -/
def pathLimit : Nat := 4095

/-- The greatest length of a name within a path. -/
def nameLimit : Nat := 255

/-! ## Steps -/

/-- The names between the solidi of a path. -/
def names : List Char → List (List Char)
  | [] => [[]]
  | '/' :: rest => [] :: names rest
  | c :: rest =>
    match names rest with
    | name :: others => (c :: name) :: others
    | [] => [[c]]

/-- A place that a path leads to: the working directory, a directory around it, or a file. -/
inductive Place where
  | working
  | around
  | file (text : String)

/-- What a directory has under a name. -/
def Place.find (files : Files) (place : Place) (name : String) : Except Fault Place :=
  match place, files name with
  | .working, some text => .ok (.file text)
  | _, _ => .error .notFound

/-- The place to which a name leads. -/
def Place.enter (files : Files) : Place → List Char → Except Fault Place
  | .file _, _ => .error .notDirectory
  | place, [] => .ok place
  | place, ['.'] => .ok place
  | _, ['.', '.'] => .ok .around
  | place, name =>
    if nameLimit < (String.ofList name).utf8ByteSize then .error .tooLong
    else place.find files (String.ofList name)

/-- Where a path starts: at the root if it begins with a solidus. -/
def start (path : List Char) : Place := if path.head? = some '/' then .around else .working

/-- The text of the file that a path leads to. -/
def read (files : Files) (path : String) : Except Fault String :=
  if '\x00' ∈ path.toList then .error .holdsNull
  else if pathLimit < path.utf8ByteSize then .error .tooLong
  else if path = "" then .error .notFound
  else do
    match ← (names path.toList).foldlM (Place.enter files) (start path.toList) with
    | .file text => return text
    | _ => throw .isDirectory

/-! ## Plain names -/

theorem names_eq_singleton {path : List Char} (h : '/' ∉ path) : names path = [path] := by
  induction path with
  | nil => rfl
  | cons c rest ih =>
    have hc : c ≠ '/' := fun he => h (he ▸ List.mem_cons_self)
    rw [names, ih fun hm => h (List.mem_cons_of_mem c hm)]
    exact hc

/-- A name that is no more than that leads from the working directory to the file of this name. -/
theorem enter_working {files : Files} {name : String} (empty : name ≠ "") (here : name ≠ ".")
    (above : name ≠ "..") (short : name.utf8ByteSize ≤ nameLimit) :
    Place.working.enter files name.toList = Place.working.find files name := by
  have hne : ∀ other : String, name ≠ other → name.toList ≠ other.toList :=
    fun other h he => h (String.toList_inj.mp he)
  unfold Place.enter
  split
  · contradiction
  · next h _ => exact absurd h (hne "" empty)
  · next h _ => exact absurd h (hne "." here)
  · next h _ => exact absurd h (hne ".." above)
  · rw [String.ofList_toList, if_neg (Nat.not_lt.mpr short)]

/-- Reading by a name gives the file of this name, if there is one. -/
theorem read_name {files : Files} {name : String} (flat : '/' ∉ name.toList)
    (null : '\x00' ∉ name.toList) (empty : name ≠ "") (here : name ≠ ".") (above : name ≠ "..")
    (short : name.utf8ByteSize ≤ nameLimit) :
    files.read name = (files name).elim (.error .notFound) .ok := by
  have hstart : start name.toList = .working :=
    if_neg fun h => flat (List.mem_of_mem_head? h)
  have hlong : ¬pathLimit < name.utf8ByteSize :=
    Nat.not_lt.mpr (Nat.le_trans short (by decide))
  rw [read, if_neg null, if_neg hlong, if_neg empty, names_eq_singleton flat, hstart,
    List.foldlM_cons, enter_working empty here above short]
  cases h : files name <;> simp [Place.find, h, bind, Except.bind, pure, Except.pure]

/-- Each reason in turn, where the working directory holds one file `a`. -/
example :
    ["a", "./a", "b", "../a", "a/b", "b/c", ".", ""].map
      (read fun name => if name = "a" then some "text" else none) =
      [.ok "text", .ok "text", .error .notFound, .error .notFound, .error .notDirectory,
        .error .notFound, .error .isDirectory, .error .notFound] := by rfl

end Files

end RecordStore
