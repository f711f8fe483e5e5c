import ArchitectureCourse.CppInt
import ArchitectureCourse.Tasks.TaskManager

/-!
# Saving and loading the task map

The destructor of a `TaskManager` writes its tasks with `SaveToFile`, and the
constructor of the next one reads them back with `LoadFromFile`.  Apart from the NUL
byte that cuts a string short, the format loses nothing: a string comes back whole when
it holds no NUL byte and its length fits the `size_t` prefix, and a status comes back as
the `int` it was written as.

`Persistable` is what a manager needs for a faithful restart: every task stored under
its own `TaskID`, and every task storable.  A persistable manager whose task count fits
the `size_t` prefix restarts with exactly the tasks it held; `Tasks/Session.lean` shows
that every manager the SOAP server reaches is persistable.
-/

namespace ArchitectureCourse.Tasks

/-- A string that `SaveToFile` writes and `LoadFromFile` reads back as it was: no NUL
byte, and a length that fits the `size_t` prefix. -/
structure StdString.Storable (s : StdString) : Prop where
  nul_free : 0 ∉ s
  length_lt : s.length < 2 ^ 64

/-- A status a task can hold: `static_cast<TaskStatus>` of some `int`. -/
def TaskStatus.IsCast (status : TaskStatus) : Prop :=
  ∃ value, wrapInt32 value = value ∧ TaskStatus.ofInt value = status

/-- A task that `SaveToFile` writes and `LoadFromFile` reads back as it was. -/
structure Task.Storable (task : Task) : Prop where
  taskId : task.taskId.Storable
  title : task.title.Storable
  description : task.description.Storable
  status : task.status.IsCast

theorem TaskStatus.toInt_ofInt (value : Int) : (TaskStatus.ofInt value).toInt = value := by
  unfold ofInt
  split_ifs <;> simp only [toInt, *]

theorem TaskStatus.ofInt_wrapInt32_toInt {status : TaskStatus} (h : status.IsCast) :
    TaskStatus.ofInt (wrapInt32 status.toInt) = status := by
  obtain ⟨value, hv, rfl⟩ := h
  rw [toInt_ofInt, hv]

namespace TaskManager

/-! ## Decoding what was encoded -/

theorem readLe_leBytes (n v : Nat) (rest : List UInt8) (hv : v < 256 ^ n) :
    readLe n (leBytes n v ++ rest) = some (v, rest) := by
  induction n generalizing v with
  | zero => simp_all [readLe, leBytes]
  | succ n ih =>
    rw [pow_succ] at hv
    rw [leBytes, List.cons_append, readLe, ih (v / 256) (by omega), Option.map_some']
    simp only [Nat.toUInt8, UInt8.toNat_ofNat_of_lt (Nat.mod_lt v (by decide : 256 > 0)), UInt8.size]
    congr 2
    omega

theorem ofCString_of_nul_free {s : StdString} (h : 0 ∉ s) : ofCString s = s :=
  List.takeWhile_eq_self_iff.mpr fun x hx => by simpa using ne_of_mem_of_not_mem hx h

theorem zero_not_mem_ofCString (s : StdString) : 0 ∉ ofCString s := fun h => by
  simpa using List.mem_takeWhile_imp h

theorem readString_encodeString {s : StdString} (hs : s.Storable) (rest : List UInt8) :
    readString (encodeString s ++ rest) = some (s, rest) := by
  have hlen : s.length < 256 ^ 8 := by simpa using hs.length_lt
  simp only [readString, encodeString, encodeSize, List.append_assoc, readLe_leBytes _ _ _ hlen]
  simp [bind, Option.bind, readBuffer, ofCString_of_nul_free hs.nul_free]

/-- The status comes back as the `int` it was written as, cut to 32 bits. -/
theorem readStatus_encodeInt (i : Int) (rest : List UInt8) :
    readStatus (encodeInt i ++ rest) = some (.ofInt (wrapInt32 i), rest) := by
  have hlt : (i % 2 ^ 32).toNat < 256 ^ 4 := by omega
  simp only [readStatus, encodeInt, readLe_leBytes _ _ _ hlt]
  simp only [bind, Option.bind, pure]
  congr 3
  unfold wrapInt32
  split <;> omega

theorem readTask_encodeTask {task : Task} (h : task.Storable) (rest : List UInt8) :
    readTask (encodeTask task ++ rest) = some (task, rest) := by
  simp only [readTask, encodeTask, List.append_assoc, readString_encodeString h.taskId,
    readString_encodeString h.title, readString_encodeString h.description, readStatus_encodeInt,
    TaskStatus.ofInt_wrapInt32_toInt h.status, bind, Option.bind, pure]

theorem readTasks_flatten (tasks : List Task) (h : ∀ task ∈ tasks, task.Storable)
    (rest : List UInt8) (acc : AList (fun _ : StdString => Task)) :
    readTasks tasks.length ((tasks.map encodeTask).flatten ++ rest) acc =
      some (tasks.foldl (fun acc task => acc.insert task.taskId task) acc) := by
  induction tasks generalizing acc with
  | nil => rfl
  | cons task tasks ih =>
    rw [List.length_cons, List.map_cons, List.flatten_cons, List.append_assoc, readTasks,
      readTask_encodeTask (h task (List.mem_cons_self _ _))]
    exact ih (fun t ht => h t (List.mem_cons_of_mem _ ht)) _

/-- Inserting tasks under their own ids: a key gets the task listed under it, or keeps
what it had. -/
theorem lookup_foldl_insert (entries : List (Σ _ : StdString, Task)) (hkeys : entries.NodupKeys)
    (hid : ∀ e ∈ entries, e.2.taskId = e.1) (acc : AList (fun _ : StdString => Task))
    (k : StdString) :
    ((entries.map (·.2)).foldl (fun acc task => acc.insert task.taskId task) acc).lookup k =
      (entries.dlookup k).or (acc.lookup k) := by
  induction entries generalizing acc with
  | nil => simp
  | cons e entries ih =>
    obtain ⟨key, task⟩ := e
    obtain ⟨hnot, hkeys⟩ := List.nodupKeys_cons.mp hkeys
    rw [List.map_cons, List.foldl_cons, hid _ (List.mem_cons_self _ _),
      ih hkeys (fun e he => hid e (List.mem_cons_of_mem _ he))]
    by_cases hk : k = key
    · subst hk
      simp [List.dlookup_eq_none.mpr hnot, List.dlookup_cons_eq]
    · simp [AList.lookup_insert_ne hk, List.dlookup_cons_ne entries (⟨key, task⟩ : Σ _ : StdString, Task) hk]

/-! ## Managers that survive a restart -/

/-- A manager that `SaveToFile` writes so that `LoadFromFile` gives it back: every task
is stored under its own `TaskID`, and every task can be stored. -/
structure Persistable (m : TaskManager) : Prop where
  key_eq : ∀ k task, m.getTask k = some task → task.taskId = k
  storable : ∀ k task, m.getTask k = some task → task.Storable

theorem getTask_insert_eq_some {m : TaskManager} {k x : StdString} {task t : Task}
    (h : getTask ⟨m.tasks.insert k task⟩ x = some t) : (x = k ∧ t = task) ∨ m.getTask x = some t := by
  by_cases hx : x = k
  · subst hx
    simp_all [getTask]
  · simp_all [getTask, AList.lookup_insert_ne hx]

theorem getTask_erase_eq_some {m : TaskManager} {k x : StdString} {t : Task}
    (h : getTask ⟨m.tasks.erase k⟩ x = some t) : m.getTask x = some t := by
  by_cases hx : x = k
  · subst hx
    simp [getTask] at h
  · simpa [getTask, AList.lookup_erase_ne hx] using h

/-- `SaveToFile`, then `LoadFromFile` into an empty manager, gives back every task of a
persistable manager whose task count fits a `size_t`. -/
theorem getTask_loadFromFile_saveToFile {m : TaskManager} (h : m.Persistable)
    (hcount : m.getTaskCount < 2 ^ 64) :
    ∃ loaded, empty.loadFromFile m.saveToFile = some loaded ∧ ∀ k, loaded.getTask k = m.getTask k := by
  have hmem : ∀ e ∈ m.tasks.entries, m.getTask e.1 = some e.2 := fun e he =>
    AList.mem_lookup_iff.mpr he
  have hall : ∀ task ∈ m.tasks.entries.map (·.2), task.Storable := by
    simp only [List.mem_map]
    rintro _ ⟨e, he, rfl⟩
    exact h.storable _ _ (hmem e he)
  have hlen : m.tasks.entries.length < 256 ^ 8 := by simpa [getTaskCount] using hcount
  have hread := readTasks_flatten _ hall [] ∅
  rw [List.length_map, List.map_map, List.append_nil, Function.comp_def] at hread
  refine ⟨⟨(m.tasks.entries.map (·.2)).foldl (fun acc task => acc.insert task.taskId task) ∅⟩,
    ?_, fun k => ?_⟩
  · simp only [loadFromFile, saveToFile, encodeSize, readLe_leBytes _ _ _ hlen, bind, Option.bind,
      empty, hread, pure]
  · simp only [getTask, lookup_foldl_insert _ m.tasks.nodupKeys fun e he => h.key_eq _ _ (hmem e he),
      AList.lookup_empty, Option.or_none]
    rfl

end TaskManager

end ArchitectureCourse.Tasks
