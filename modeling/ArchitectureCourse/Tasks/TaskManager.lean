import Mathlib.Algebra.Group.Int
import Mathlib.Data.List.AList

/-!
# The task manager and its data file

The SOAP server keeps its tasks in a `TaskManager`: a map from `TaskID` to `Task`,
each operation taking `tasksMutex`.  Besides the calls the handlers make, it answers
queries: the tasks of one status, a count per status, and a search for a keyword in
titles and descriptions, case folded.  The destructor writes the map to a binary file
and the constructor reads it back.  The file is length-prefixed: the count, then for
each task three strings, each as its length (`size_t`) followed by its bytes, and the
status as an `int`.  Scalars are written in the machine's little-endian layout.

`LoadFromFile` reads each string into a buffer of the stored length but then assigns
the buffer to the `std::string` as a `char*`, which stops at the first NUL byte.
-/

namespace ArchitectureCourse.Tasks

/-- `std::string`, a sequence of `char`, taken as bytes. -/
abbrev StdString := List UInt8

/-- `TaskStatus`.  An `int` outside the three enumerators still converts to a
`TaskStatus` with `static_cast`; such a value is `unnamed`. -/
inductive TaskStatus where
  | NEW
  | IN_PROGRESS
  | COMPLETED
  | unnamed (value : Int)
  deriving DecidableEq, Repr

/-- `static_cast<int>(status)`. -/
def TaskStatus.toInt : TaskStatus → Int
  | NEW => 0
  | IN_PROGRESS => 1
  | COMPLETED => 2
  | unnamed value => value

/-- `static_cast<TaskStatus>(value)`. -/
def TaskStatus.ofInt (value : Int) : TaskStatus :=
  if value = 0 then .NEW else if value = 1 then .IN_PROGRESS
  else if value = 2 then .COMPLETED else .unnamed value

/-- The bytes of a string literal. -/
def StdString.ofString (s : String) : StdString :=
  s.toUTF8.toList

theorem toList_byteArray (bytes : Array UInt8) : (ByteArray.mk bytes).toList = bytes.toList := by
  have hloop : ∀ n i r, bytes.size - i = n →
      ByteArray.toList.loop ⟨bytes⟩ i r = r.reverse ++ bytes.toList.drop i := by
    intro n
    induction n with
    | zero =>
      intro i r h
      rw [ByteArray.toList.loop, if_neg (by simp [ByteArray.size]; omega),
        List.drop_eq_nil_of_le (by simp; omega), List.append_nil]
    | succ n ih =>
      intro i r h
      have hi : i < bytes.size := by omega
      rw [ByteArray.toList.loop, if_pos (by simpa [ByteArray.size] using hi), ih (i + 1) _ (by omega)]
      simp [ByteArray.get!, getElem!_pos bytes i hi, List.drop_eq_getElem_cons (by simpa using hi)]
  simpa using hloop _ 0 [] rfl

/-- The bytes of a literal are the UTF-8 encodings of its characters, one after another. -/
theorem StdString.ofString_eq (s : String) :
    StdString.ofString s = s.data.flatMap String.utf8EncodeChar := by
  simp [StdString.ofString, String.toUTF8, toList_byteArray]

theorem StdString.ofString_append (s t : String) :
    StdString.ofString (s ++ t) = .ofString s ++ .ofString t := by
  simp [StdString.ofString_eq]

/-- `TaskStatusToString`. -/
def taskStatusToString : TaskStatus → StdString
  | .NEW => .ofString "New"
  | .IN_PROGRESS => .ofString "In Progress"
  | .COMPLETED => .ofString "Completed"
  | .unnamed _ => .ofString "Unknown"

/-- `StringToTaskStatus`: unknown texts give `NEW`. -/
def stringToTaskStatus (statusStr : StdString) : TaskStatus :=
  if statusStr = .ofString "New" ∨ statusStr = .ofString "new" then .NEW
  else if statusStr = .ofString "In Progress" ∨ statusStr = .ofString "in progress" then .IN_PROGRESS
  else if statusStr = .ofString "Completed" ∨ statusStr = .ofString "completed" then .COMPLETED
  else .NEW

/-- `Task`. -/
structure Task where
  taskId : StdString
  title : StdString
  description : StdString
  status : TaskStatus
  deriving DecidableEq, Repr

/-- `TaskManager`: the map `tasks`.  The file path and the three callbacks are not
part of the model. -/
structure TaskManager where
  tasks : AList (fun _ : StdString => Task)

namespace TaskManager

/-- A manager whose data file could not be opened. -/
def empty : TaskManager := ⟨∅⟩

/-- `CreateTask`: refused when the id is taken. -/
def createTask (m : TaskManager) (task : Task) : Bool × TaskManager :=
  match m.tasks.lookup task.taskId with
  | some _ => (false, m)
  | none => (true, ⟨m.tasks.insert task.taskId task⟩)

/-- `GetTask`. -/
def getTask (m : TaskManager) (taskId : StdString) : Option Task :=
  m.tasks.lookup taskId

/-- `UpdateTask`: the stored task is replaced when its id is present. -/
def updateTask (m : TaskManager) (task : Task) : Bool × TaskManager :=
  match m.tasks.lookup task.taskId with
  | none => (false, m)
  | some _ => (true, ⟨m.tasks.insert task.taskId task⟩)

/-- `DeleteTask`. -/
def deleteTask (m : TaskManager) (taskId : StdString) : Bool × TaskManager :=
  match m.tasks.lookup taskId with
  | none => (false, m)
  | some _ => (true, ⟨m.tasks.erase taskId⟩)

/-- `GetAllTasks`, in the map's order. -/
def getAllTasks (m : TaskManager) : List Task :=
  m.tasks.entries.map (·.2)

/-- `GetTaskCount`. -/
def getTaskCount (m : TaskManager) : Nat :=
  m.tasks.entries.length

/-- `GetTasksByStatus`, in the map's order. -/
def getTasksByStatus (m : TaskManager) (status : TaskStatus) : List Task :=
  m.getAllTasks.filter (·.status = status)

/-- `Statistics`. -/
structure Statistics where
  totalTasks : Nat
  newTasks : Nat
  inProgressTasks : Nat
  completedTasks : Nat
  deriving DecidableEq, Repr

/-- One task in the loop of `GetStatistics`: a status outside the three enumerators
matches no `case` and is not counted. -/
def Statistics.count (stats : Statistics) : TaskStatus → Statistics
  | .NEW => { stats with newTasks := stats.newTasks + 1 }
  | .IN_PROGRESS => { stats with inProgressTasks := stats.inProgressTasks + 1 }
  | .COMPLETED => { stats with completedTasks := stats.completedTasks + 1 }
  | .unnamed _ => stats

/-- `GetStatistics`. -/
def getStatistics (m : TaskManager) : Statistics :=
  m.tasks.entries.foldl (fun stats e => stats.count e.2.status) ⟨m.getTaskCount, 0, 0, 0⟩

/-- `std::string::find`: the first offset at which `needle` starts in `s`; `none` is
`npos`. -/
def StdString.find (s needle : StdString) : Option Nat :=
  if needle.isPrefixOf s then some 0
  else match s with
    | [] => none
    | _ :: rest => (find rest needle).map (· + 1)

/-- `::tolower` in the C locale: only `A` to `Z` change. -/
def tolower (c : UInt8) : UInt8 :=
  if 65 ≤ c ∧ c ≤ 90 then c + 32 else c

/-- `SearchTasks`, in the map's order: the keyword, each title and each description
lowered with `::tolower`, and a task kept when the keyword occurs in its title or its
description. -/
def searchTasks (m : TaskManager) (keyword : StdString) : List Task :=
  let lowerKeyword := keyword.map tolower
  m.getAllTasks.filter fun task =>
    (StdString.find (task.title.map tolower) lowerKeyword).isSome ||
      (StdString.find (task.description.map tolower) lowerKeyword).isSome

/-- What `CreateTask` does: store a task under a free id, or refuse. -/
theorem createTask_spec (m : TaskManager) (task : Task) :
    (m.getTask task.taskId = none ∧ m.createTask task = (true, ⟨m.tasks.insert task.taskId task⟩)) ∨
      ((m.getTask task.taskId).isSome ∧ m.createTask task = (false, m)) := by
  unfold createTask getTask
  cases m.tasks.lookup task.taskId <;> simp

theorem createTask_eq_false {m m' : TaskManager} {task : Task} (h : m.createTask task = (false, m')) :
    m' = m := by
  rcases createTask_spec m task with ⟨-, hc⟩ | ⟨-, hc⟩ <;> rw [hc] at h <;> cases h
  rfl

theorem createTask_eq_true {m m' : TaskManager} {task : Task} (h : m.createTask task = (true, m')) :
    m.getTask task.taskId = none ∧ m' = ⟨m.tasks.insert task.taskId task⟩ := by
  rcases createTask_spec m task with ⟨hn, hc⟩ | ⟨-, hc⟩ <;> rw [hc] at h <;> cases h
  exact ⟨hn, rfl⟩

/-- What `UpdateTask` does: replace a stored task, or refuse. -/
theorem updateTask_spec (m : TaskManager) (task : Task) :
    ((m.getTask task.taskId).isSome ∧ m.updateTask task = (true, ⟨m.tasks.insert task.taskId task⟩)) ∨
      (m.getTask task.taskId = none ∧ m.updateTask task = (false, m)) := by
  unfold updateTask getTask
  cases m.tasks.lookup task.taskId <;> simp

theorem updateTask_eq_false {m m' : TaskManager} {task : Task} (h : m.updateTask task = (false, m')) :
    m' = m := by
  rcases updateTask_spec m task with ⟨-, hc⟩ | ⟨-, hc⟩ <;> rw [hc] at h <;> cases h
  rfl

theorem updateTask_eq_true {m m' : TaskManager} {task : Task} (h : m.updateTask task = (true, m')) :
    (m.getTask task.taskId).isSome ∧ m' = ⟨m.tasks.insert task.taskId task⟩ := by
  rcases updateTask_spec m task with ⟨hs, hc⟩ | ⟨-, hc⟩ <;> rw [hc] at h <;> cases h
  exact ⟨hs, rfl⟩

/-- What `DeleteTask` does: erase a stored task, or report that there is none. -/
theorem deleteTask_spec (m : TaskManager) (taskId : StdString) :
    ((m.getTask taskId).isSome ∧ m.deleteTask taskId = (true, ⟨m.tasks.erase taskId⟩)) ∨
      (m.getTask taskId = none ∧ m.deleteTask taskId = (false, m)) := by
  unfold deleteTask getTask
  cases m.tasks.lookup taskId <;> simp

/-! ## Search -/

/-- `find` answers `npos` exactly when `needle` occurs nowhere in `s`. -/
theorem StdString.isSome_find (s needle : StdString) : (find s needle).isSome ↔ needle <:+: s := by
  induction s with
  | nil =>
    rw [find]
    cases needle <;> simp [List.infix_nil]
  | cons c rest ih =>
    rw [find, List.infix_cons_iff, ← List.isPrefixOf_iff_prefix, ← ih]
    split_ifs with h <;> simp [h]

/-- The keyword `Buy` finds the task titled `buy milk`. -/
example :
    (⟨(∅ : AList _).insert [116] ⟨[116], [98, 117, 121, 32, 109, 105, 108, 107], [], .NEW⟩⟩ :
      TaskManager).searchTasks [66, 117, 121] ≠ [] := by
  decide

/-! ## The data file -/

/-- The `n` low-order bytes of `v`, least significant first. -/
def leBytes : Nat → Nat → List UInt8
  | 0, _ => []
  | n + 1, v => (v % 256).toUInt8 :: leBytes n (v / 256)

/-- A `size_t` as `write` stores it. -/
def encodeSize (n : Nat) : List UInt8 :=
  leBytes 8 n

/-- An `int` as `write` stores it. -/
def encodeInt (i : Int) : List UInt8 :=
  leBytes 4 (i % 2 ^ 32).toNat

/-- A string as `SaveToFile` writes it: its length, then all its bytes. -/
def encodeString (s : StdString) : List UInt8 :=
  encodeSize s.length ++ s

/-- One task, as the loop of `SaveToFile` writes it. -/
def encodeTask (task : Task) : List UInt8 :=
  encodeString task.taskId ++ encodeString task.title ++ encodeString task.description ++
    encodeInt task.status.toInt

/-- `SaveToFile`: the bytes of the data file. -/
def saveToFile (m : TaskManager) : List UInt8 :=
  encodeSize m.tasks.entries.length ++ (m.tasks.entries.map fun e => encodeTask e.2).flatten

/-- `read` of an `n`-byte little-endian scalar; nothing when the file is too short. -/
def readLe : Nat → List UInt8 → Option (Nat × List UInt8)
  | 0, rest => some (0, rest)
  | _ + 1, [] => none
  | n + 1, b :: rest => (readLe n rest).map fun r => (b.toNat + 256 * r.1, r.2)

/-- `read` of `n` bytes into a buffer. -/
def readBuffer (n : Nat) (input : List UInt8) : Option (List UInt8 × List UInt8) :=
  if n ≤ input.length then some (input.take n, input.drop n) else none

/-- The assignment of a `char*` buffer to a `std::string`: the bytes before the first
NUL. -/
def ofCString (buffer : List UInt8) : StdString :=
  buffer.takeWhile (· != 0)

/-- One string of the file: its length, its buffer, and the assignment. -/
def readString (input : List UInt8) : Option (StdString × List UInt8) := do
  let (length, rest) ← readLe 8 input
  let (buffer, rest) ← readBuffer length rest
  return (ofCString buffer, rest)

/-- The status `int`, read as two's complement and cast to `TaskStatus`. -/
def readStatus (input : List UInt8) : Option (TaskStatus × List UInt8) := do
  let (raw, rest) ← readLe 4 input
  let value : Int := if raw < 2 ^ 31 then raw else (raw : Int) - 2 ^ 32
  return (TaskStatus.ofInt value, rest)

/-- One task of the file. -/
def readTask (input : List UInt8) : Option (Task × List UInt8) := do
  let (taskId, rest) ← readString input
  let (title, rest) ← readString rest
  let (description, rest) ← readString rest
  let (status, rest) ← readStatus rest
  return (⟨taskId, title, description, status⟩, rest)

/-- The loop of `LoadFromFile`: each task read is stored under its `TaskID`. -/
def readTasks : Nat → List UInt8 → AList (fun _ : StdString => Task) →
    Option (AList (fun _ : StdString => Task))
  | 0, _, tasks => some tasks
  | n + 1, input, tasks => do
    let (task, rest) ← readTask input
    readTasks n rest (tasks.insert task.taskId task)

/-- `LoadFromFile`; nothing when the file ends early. -/
def loadFromFile (m : TaskManager) (file : List UInt8) : Option TaskManager := do
  let (count, rest) ← readLe 8 file
  let tasks ← readTasks count rest m.tasks
  return ⟨tasks⟩

/-- A task whose title holds a NUL byte, saved and loaded back into an empty manager,
comes back with its title cut at the NUL. -/
theorem loadFromFile_saveToFile_cuts_at_nul :
    let task : Task := ⟨[116], [97, 0, 98], [], .NEW⟩
    let m := (empty.createTask task).2
    (empty.loadFromFile m.saveToFile).map (·.getTask task.taskId) = some (some ⟨[116], [97], [], .NEW⟩) := by
  decide

end TaskManager

end ArchitectureCourse.Tasks
