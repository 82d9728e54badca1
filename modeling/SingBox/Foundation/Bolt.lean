import SingBox.Foundation.Bytes
import SingBox.Foundation.Codec

/-! # A bucket database

What the program relies on of the library `bbolt`: nested buckets of keys and values, and
transactions that change nothing when their function returns an error. A
bucket is named by its path from the root, and deleting a bucket deletes the
buckets below it. The documented error cases of each operation are kept; a
bucket handle is only ever obtained from a bucket that exists.
-/

namespace SingBox.Bolt

open Option Function

abbrev Path := List Bytes

/-- The content of every bucket. A bucket lies in a bucket, or in the root. -/
structure Database where
  bucket : Path → Option (Bytes → Option Bytes)
  nested : ∀ path name, (bucket (path ++ [name])).isSome → path ≠ [] → (bucket path).isSome

inductive Error
  | bucketNameRequired
  | bucketNotFound
  | keyRequired
  | keyTooLarge
  | valueTooLarge
  deriving DecidableEq

def maxKeySize : Nat := 32768

def maxValueSize : Nat := 2147483646

namespace Database

def empty : Database where
  bucket _ := none
  nested _ _ isSome := by cases isSome

variable (database : Database) (path : Path)

def get (key : Bytes) : Option Bytes :=
  (database.bucket path).bind fun content => content key

def hasBucket : Bool := (database.bucket path).isSome

/-- The database with a bucket and the buckets it lies in. -/
def create : Database where
  bucket other :=
    if other ≠ [] ∧ other <+: path then
      some ((database.bucket other).getD fun _ => none)
    else database.bucket other
  nested parent name isSome notRoot := by
    by_cases within : parent ≠ [] ∧ parent <+: path
    · simp [within]
    have outside : ¬ (parent ++ [name] ≠ [] ∧ parent ++ [name] <+: path) :=
      fun inside => within ⟨notRoot, (List.prefix_append _ _).trans inside.2⟩
    rw [if_neg outside] at isSome
    rw [if_neg within]
    exact database.nested parent name isSome notRoot

private theorem isSome_update_map (other : Path)
    (change : (Bytes → Option Bytes) → Bytes → Option Bytes) :
    (update database.bucket path ((database.bucket path).map change) other).isSome =
      (database.bucket other).isSome := by
  by_cases same : other = path
  · subst same
    simp
  · simp [same]

def insert (key value : Bytes) : Database where
  bucket := update database.bucket path
    ((database.bucket path).map fun content => update content key (some value))
  nested := by simpa only [isSome_update_map] using database.nested

def erase (key : Bytes) : Database where
  bucket := update database.bucket path
    ((database.bucket path).map fun content => update content key none)
  nested := by simpa only [isSome_update_map] using database.nested

def remove : Database where
  bucket other := if path <+: other then none else database.bucket other
  nested parent name isSome notRoot := by
    have outside : ¬ path <+: parent ++ [name] := by
      intro inside
      simp [inside] at isSome
    have kept : ¬ path <+: parent := fun inside =>
      outside (inside.trans (List.prefix_append _ _))
    rw [if_neg outside] at isSome
    rw [if_neg kept]
    exact database.nested parent name isSome notRoot

/-! ## What an update leaves behind -/

section

variable (database : Database) (path other : Path) (key otherKey value : Bytes)

@[simp] theorem hasBucket_empty : empty.hasBucket path = false := rfl

theorem get_eq_none_of_hasBucket {path : Path} (missing : database.hasBucket path = false)
    (key : Bytes) : database.get path key = none := by
  rw [hasBucket, isSome_eq_false_iff, isNone_iff_eq_none] at missing
  rw [get, missing]
  rfl

@[simp] theorem get_create : (database.create path).get other key = database.get other key := by
  by_cases within : other ≠ [] ∧ other <+: path
  · cases content : database.bucket other <;> simp [get, create, content]
  · simp only [get, create, if_neg within]

theorem hasBucket_create :
    (database.create path).hasBucket other =
      (decide (other ≠ [] ∧ other <+: path) || database.hasBucket other) := by
  by_cases within : other ≠ [] ∧ other <+: path
  · simp only [hasBucket, create, if_pos within, decide_eq_true within, isSome_some,
      Bool.true_or]
  · simp only [hasBucket, create, if_neg within, decide_eq_false within, Bool.false_or]

@[simp] theorem hasBucket_create_root (name otherName : Bytes) :
    (database.create [name]).hasBucket [otherName] =
      (decide (otherName = name) || database.hasBucket [otherName]) := by
  rw [hasBucket_create]
  simp

@[simp] theorem hasBucket_insert :
    (database.insert path key value).hasBucket other = database.hasBucket other :=
  isSome_update_map database path other _

@[simp] theorem hasBucket_erase :
    (database.erase path key).hasBucket other = database.hasBucket other :=
  isSome_update_map database path other _

theorem get_insert (present : database.hasBucket path = true) :
    (database.insert path key value).get other otherKey =
      if other = path ∧ otherKey = key then some value else database.get other otherKey := by
  by_cases same : other = path
  · subst same
    rcases isSome_iff_exists.mp present with ⟨_, isContent⟩
    by_cases sameKey : otherKey = key <;> simp [get, insert, isContent, sameKey]
  · simp [get, insert, same]

theorem get_erase :
    (database.erase path key).get other otherKey =
      if other = path ∧ otherKey = key then none else database.get other otherKey := by
  by_cases same : other = path
  · subst same
    cases isContent : database.bucket other with
    | none => simp [get, erase, isContent]
    | some => by_cases sameKey : otherKey = key <;> simp [get, erase, isContent, sameKey]
  · simp [get, erase, same]

theorem hasBucket_remove :
    (database.remove path).hasBucket other =
      (!decide (path <+: other) && database.hasBucket other) := by
  by_cases within : path <+: other <;> simp [hasBucket, remove, within]

end

end Database

/-! ## Transactions -/

abbrev Tx (Result : Type) := StateT Database (Except Error) Result

namespace Tx

variable (path : Path)

def get (key : Bytes) : Tx (Option Bytes) := do
  return (← StateT.get).get path key

def hasBucket : Tx Bool := do
  return (← StateT.get).hasBucket path

def createBucketIfNotExists (parent : Path) (name : Bytes) : Tx Unit := fun database =>
  if name = [] then .error .bucketNameRequired
  else if maxKeySize < name.length then .error .keyTooLarge
  else .ok ((), database.create (parent ++ [name]))

def deleteBucket (parent : Path) (name : Bytes) : Tx Unit := fun database =>
  if database.hasBucket (parent ++ [name]) then
    .ok ((), database.remove (parent ++ [name]))
  else .error .bucketNotFound

def put (key value : Bytes) : Tx Unit := fun database =>
  if key = [] then .error .keyRequired
  else if maxKeySize < key.length then .error .keyTooLarge
  else if maxValueSize < value.length then .error .valueTooLarge
  else .ok ((), database.insert path key value)

def delete (key : Bytes) : Tx Unit := fun database =>
  .ok ((), database.erase path key)

theorem run_pure {Result : Type} (value : Result) (database : Database) :
    (pure value : Tx Result) database = .ok (value, database) := rfl

theorem run_get (key : Bytes) (database : Database) :
    get path key database = .ok (database.get path key, database) := rfl

theorem run_hasBucket (database : Database) :
    hasBucket path database = .ok (database.hasBucket path, database) := rfl

/-! What is known after a committed operation. -/

variable {database next : Database} {result : Unit}

theorem bind_ok {First Rest : Type} {first : Tx First} {rest : First → Tx Rest} {result : Rest}
    (ok : (first >>= rest) database = .ok (result, next)) :
    ∃ value middle, first database = .ok (value, middle) ∧
      rest value middle = .ok (result, next) := by
  rcases bind_eq_ok ok with ⟨⟨value, middle⟩, isFirst, isRest⟩
  exact ⟨value, middle, isFirst, isRest⟩

theorem createBucketIfNotExists_ok {parent : Path} {name : Bytes}
    (ok : createBucketIfNotExists parent name database = .ok (result, next)) :
    next = database.create (parent ++ [name]) := by
  unfold createBucketIfNotExists at ok
  split_ifs at ok
  cases ok
  rfl

theorem put_ok {path : Path} {key value : Bytes}
    (ok : put path key value database = .ok (result, next)) :
    next = database.insert path key value := by
  unfold put at ok
  split_ifs at ok
  cases ok
  rfl

end Tx

/-- `DB.Batch` and `DB.Update`: the database after the transaction, and whether
it was committed. -/
def batch (transaction : Tx Unit) (database : Database) : Database × Bool :=
  match transaction database with
  | .ok ((), database) => (database, true)
  | .error _ => (database, false)

variable {database : Database} {transaction : Tx Unit}

theorem batch_of_ok {next : Database}
    (ok : transaction database = .ok ((), next)) : batch transaction database = (next, true) := by
  rw [batch, ok]

theorem batch_of_error {error : Error} (failed : transaction database = .error error) :
    batch transaction database = (database, false) := by
  rw [batch, failed]

end SingBox.Bolt
