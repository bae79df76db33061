/-
# RecordStore.Catalog — the schema and the first records of a server.

A server without a schema file knows three types: users, stored as visitors, apps and tags.  Its
first records come from a seed file, if there is one.  A file that cannot be read or does not hold
what it should keeps the server from starting; the fault then names the file.
-/
import RecordStore.Dataset.Text
import RecordStore.Files
import RecordStore.Schema.Text

namespace RecordStore.Catalog

/-! ## The built-in schema -/

/-- Users of the server. -/
def user : EntityType :=
  (((EntityType.keyed "User" "visitors" "id").withField "email" .string).withField
    "displayName" .string |>.withField "permissions" .array).withField "status" .number

/-- Published apps. -/
def app : EntityType :=
  (EntityType.keyed "App" "apps" "uid").withField "owner" .key
    |>.withField "title" .string
    |>.withField "description" .string
    |>.withField "tags" .array
    |>.withField "status" .number
    |>.withField "uploadTime" .number
    |>.withField "numLikes" .number
    |>.withField "numDownloads" .number

/-- Tags of apps with the number of their uses. -/
def tag : EntityType :=
  (EntityType.keyed "Tag" "tags" "value").withField "type" .string |>.withField "count" .number

theorem user_valid : user.Valid := by decide

theorem app_valid : app.Valid := by decide

theorem tag_valid : tag.Valid := by decide

/-- The schema of a server without a schema file. -/
def builtIn : Schema :=
  ((Schema.empty.add user user_valid).add app app_valid).add tag tag_valid

/-! ## Files -/

/-- Why the schema or the first records cannot be had. -/
inductive Fault where
  | unreadable (path : String) (fault : Files.Fault)
  | invalid (path : String) (error : Error)
deriving DecidableEq

/-- The wording of a fault. -/
def Fault.message : Fault → String
  | .unreadable path fault => "Cannot read " ++ path ++ ": " ++ fault.message
  | .invalid path error => "Invalid " ++ path ++ ": " ++ error.message

/-- What a file holds, as a reader understands it. -/
def readFile {α : Type} (files : Files) (ofText : String → Except Error α) (path : String) :
    Except Fault α :=
  match files.read path with
  | .error fault => .error (.unreadable path fault)
  | .ok text => (ofText text).mapError (.invalid path)

/-- The schema of a server. -/
def schema (files : Files) : Option String → Except Fault Schema
  | none => .ok builtIn
  | some path => readFile files Schema.ofText path

/-- The first records of a server. -/
def seed (files : Files) : Option String → Except Fault Dataset
  | none => .ok .empty
  | some path => readFile files Dataset.ofText path

end RecordStore.Catalog
