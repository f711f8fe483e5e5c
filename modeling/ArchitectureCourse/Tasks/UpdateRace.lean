import ArchitectureCourse.Tasks.TaskManager

/-!
# Concurrent task updates

`SOAPServer::DoAccept` runs every connection on a thread of its own, and
`HandleUpdateTask` reads the task with `GetTask`, fills the fields the request leaves
empty from what it read, and writes the result with `UpdateTask`.  Each of the two
calls holds `tasksMutex`, but nothing holds it between them.

A request is therefore two atomic steps on the shared manager.  Two requests on the
same task may interleave in any order; each ends with the task it computed from what
it read, so the request that writes last decides the outcome, and a request that read
before the other one wrote overwrites the other's fields.
-/

namespace ArchitectureCourse.Tasks

/-- The fields `HandleUpdateTask` extracts from a request; an empty one was not given. -/
structure UpdateRequest where
  taskId : StdString
  title : StdString
  description : StdString
  statusStr : StdString
  deriving DecidableEq, Repr

/-- The task `HandleUpdateTask` writes: the request's fields, and the task it read
where the request leaves one empty. -/
def mergeUpdate (existing : Task) (request : UpdateRequest) : Task :=
  ⟨request.taskId,
    if request.title = [] then existing.title else request.title,
    if request.description = [] then existing.description else request.description,
    if request.statusStr = [] then existing.status else stringToTaskStatus request.statusStr⟩

/-- Where a request stands: before `GetTask`, holding the task it read, or finished
with the task it wrote or the `what()` text of the exception it threw. -/
inductive UpdatePhase where
  | start
  | read (existing : Task)
  | done (result : Except StdString Task)
  deriving Repr

/-- The atomic steps of `HandleUpdateTask` on the manager. -/
def updateStep (request : UpdateRequest) (m : TaskManager) : UpdatePhase → Option (UpdatePhase × TaskManager)
  | .start =>
    if request.taskId = [] then some (.done (.error (.ofString "TaskID is required")), m)
    else
      match m.getTask request.taskId with
      | none =>
        some (.done (.error (.ofString "Task with ID \x27" ++ request.taskId ++ .ofString "\x27 not found")), m)
      | some existing => some (.read existing, m)
  | .read existing =>
    let task := mergeUpdate existing request
    match m.updateTask task with
    | (true, m') => some (.done (.ok task), m')
    | (false, m') =>
      some (.done (.error (.ofString "Failed to update task with ID \x27" ++ task.taskId ++ .ofString "\x27")), m')
  | .done _ => none

/-- `n` steps of one request, with no other request in between. -/
def runAlone (request : UpdateRequest) : Nat → UpdatePhase → TaskManager → Option (UpdatePhase × TaskManager)
  | 0, p, m => some (p, m)
  | n + 1, p, m => (updateStep request m p).bind fun (p', m') => runAlone request n p' m'

/-- Two requests in flight and the manager they share. -/
structure RaceState where
  manager : TaskManager
  first : UpdatePhase
  second : UpdatePhase

/-- The scheduler runs one step of the first request (`false`) or of the second
(`true`); a finished request cannot be scheduled. -/
def raceStep (r₁ r₂ : UpdateRequest) (s : RaceState) : Bool → Option RaceState
  | false => (updateStep r₁ s.manager s.first).map fun (p, m) => { s with manager := m, first := p }
  | true => (updateStep r₂ s.manager s.second).map fun (p, m) => { s with manager := m, second := p }

/-- A run of the scheduler. -/
def runSchedule (r₁ r₂ : UpdateRequest) : RaceState → List Bool → Option RaceState
  | s, [] => some s
  | s, b :: rest => (raceStep r₁ r₂ s b).bind (runSchedule r₁ r₂ · rest)

/-- Both requests have finished. -/
def RaceState.finished (s : RaceState) : Prop :=
  (∃ r, s.first = .done r) ∧ ∃ r, s.second = .done r

/-- Steps left to a request: two before `GetTask`, one after, none when finished. -/
def UpdatePhase.remaining : UpdatePhase → Nat
  | .start => 2
  | .read _ => 1
  | .done _ => 0

@[simp] theorem mergeUpdate_taskId (existing : Task) (request : UpdateRequest) :
    (mergeUpdate existing request).taskId = request.taskId :=
  rfl

@[simp] theorem getTask_insert (m : TaskManager) (taskId : StdString) (task : Task) :
    TaskManager.getTask ⟨m.tasks.insert taskId task⟩ taskId = some task := by
  simp [TaskManager.getTask]

/-- `GetTask` of a present task. -/
theorem updateStep_start {request : UpdateRequest} {m : TaskManager} {existing : Task}
    (hne : request.taskId ≠ []) (hget : m.getTask request.taskId = some existing) :
    updateStep request m .start = some (.read existing, m) := by
  simp [updateStep, hne, hget]

/-- `UpdateTask` of a present task. -/
theorem updateStep_read {request : UpdateRequest} {m : TaskManager} (existing : Task)
    (hm : (m.getTask request.taskId).isSome) :
    updateStep request m (.read existing) =
      some (.done (.ok (mergeUpdate existing request)),
        ⟨m.tasks.insert request.taskId (mergeUpdate existing request)⟩) := by
  obtain ⟨t, ht⟩ := Option.isSome_iff_exists.mp hm
  simp only [TaskManager.getTask] at ht
  simp [updateStep, TaskManager.updateTask, ht]

/-- While its task is present, each step of a request uses up one of its steps and
leaves the task present. -/
theorem updateStep_of_present {request : UpdateRequest} {m m' : TaskManager} {p p' : UpdatePhase}
    (hne : request.taskId ≠ []) (hm : (m.getTask request.taskId).isSome)
    (h : updateStep request m p = some (p', m')) :
    p'.remaining + 1 = p.remaining ∧ (m'.getTask request.taskId).isSome := by
  cases p with
  | start =>
    obtain ⟨t, ht⟩ := Option.isSome_iff_exists.mp hm
    rw [updateStep_start hne ht] at h
    cases h
    exact ⟨rfl, hm⟩
  | read existing =>
    rw [updateStep_read existing hm] at h
    cases h
    exact ⟨rfl, by simp⟩
  | done _ => cases h

/-- Two requests on one present task: every step of a run uses up one step of one
request. -/
theorem runSchedule_length {r₁ r₂ : UpdateRequest} {s s' : RaceState} (hid : r₁.taskId = r₂.taskId)
    (hne : r₁.taskId ≠ []) (hm : (s.manager.getTask r₁.taskId).isSome) (schedule : List Bool)
    (h : runSchedule r₁ r₂ s schedule = some s') :
    s'.first.remaining + s'.second.remaining + schedule.length =
      s.first.remaining + s.second.remaining := by
  induction schedule generalizing s with
  | nil => cases h; rfl
  | cons b rest ih =>
    obtain ⟨s₁, hs, hrest⟩ := Option.bind_eq_some.mp h
    cases b <;> obtain ⟨⟨p, m⟩, hp, rfl⟩ := Option.map_eq_some'.mp hs
    · obtain ⟨hstep, hm'⟩ := updateStep_of_present hne hm hp
      have := ih hm' hrest
      simp only [List.length_cons] at *
      omega
    · obtain ⟨hstep, hm'⟩ := updateStep_of_present (hid ▸ hne) (hid ▸ hm) hp
      have := ih (hid ▸ hm') hrest
      simp only [List.length_cons] at *
      omega

/-- Two `HandleUpdateTask` requests on the same present task, run to the end under any
schedule.  When one request makes both its steps before the other starts, the task
ends as the two updates made one after the other.  Otherwise both read the original
task before either writes, and the task ends as the request that writes last computed
it from the original task alone: the other request's changes are lost. -/
theorem handleUpdateTask_race (r₁ r₂ : UpdateRequest) (m : TaskManager) (t₀ : Task)
    (hid : r₁.taskId = r₂.taskId) (hne : r₁.taskId ≠ []) (hget : m.getTask r₁.taskId = some t₀)
    (schedule : List Bool) (s : RaceState)
    (hrun : runSchedule r₁ r₂ ⟨m, .start, .start⟩ schedule = some s) (hfin : s.finished) :
    s.manager.getTask r₁.taskId =
      if schedule = [false, false, true, true] then some (mergeUpdate (mergeUpdate t₀ r₁) r₂)
      else if schedule = [true, true, false, false] then some (mergeUpdate (mergeUpdate t₀ r₂) r₁)
      else if schedule.getLast? = some false then some (mergeUpdate t₀ r₁)
      else some (mergeUpdate t₀ r₂) := by
  have hlen := runSchedule_length hid hne (by simp [hget]) schedule hrun
  obtain ⟨⟨_, h₁⟩, ⟨_, h₂⟩⟩ := hfin
  simp only [h₁, h₂, UpdatePhase.remaining] at hlen
  obtain ⟨k, title₁, description₁, status₁⟩ := r₁
  obtain ⟨k₂, title₂, description₂, status₂⟩ := r₂
  obtain rfl : k = k₂ := hid
  simp only [TaskManager.getTask] at hne hget ⊢
  match schedule, hlen with
  | [a, b, c, d], _ =>
    cases a <;> cases b <;> cases c <;> cases d <;>
      simp only [runSchedule, raceStep, updateStep, TaskManager.updateTask, TaskManager.getTask, hne,
        hget, reduceIte, mergeUpdate_taskId, AList.lookup_insert, AList.insert_insert, Option.map_some',
        Option.map_none', Option.bind_some, Option.some_bind, Option.none_bind, Option.some.injEq,
        reduceCtorEq, List.cons.injEq, Bool.true_eq_false, Bool.false_eq_true, and_true, and_false,
        and_self, List.getLast?_cons_cons, List.getLast?_singleton] at hrun ⊢ <;>
      subst hrun <;> simp only [AList.lookup_insert]

/-- A title-only and a status-only request on the task `"t"`, both reading before
either writes: the status-only request writes last and the task ends with its status
and the original title. -/
theorem handleUpdateTask_race_overlapping :
    let t₀ : Task := ⟨[116], [111], [], .NEW⟩
    let r₁ : UpdateRequest := ⟨[116], [110], [], []⟩
    let r₂ : UpdateRequest := ⟨[116], [], [], .ofString "Completed"⟩
    let schedule := [false, true, false, true]
    ∃ s, runSchedule r₁ r₂ ⟨(TaskManager.empty.createTask t₀).2, .start, .start⟩ schedule = some s ∧
      s.finished ∧
      s.manager.getTask r₁.taskId =
        if schedule = [false, false, true, true] then some (mergeUpdate (mergeUpdate t₀ r₁) r₂)
        else if schedule = [true, true, false, false] then some (mergeUpdate (mergeUpdate t₀ r₂) r₁)
        else if schedule.getLast? = some false then some (mergeUpdate t₀ r₁)
        else some (mergeUpdate t₀ r₂) := by
  intro t₀ r₁ r₂ schedule
  exact ⟨_, rfl, ⟨⟨_, rfl⟩, ⟨_, rfl⟩⟩, handleUpdateTask_race r₁ r₂ (TaskManager.empty.createTask t₀).2
    t₀ rfl (by decide) rfl schedule _ rfl ⟨⟨_, rfl⟩, ⟨_, rfl⟩⟩⟩

/-- The same two requests and schedule end in neither order's outcome: the new title is
lost. -/
theorem handleUpdateTask_race_loses_title :
    let t₀ : Task := ⟨[116], [111], [], .NEW⟩
    let r₁ : UpdateRequest := ⟨[116], [110], [], []⟩
    let r₂ : UpdateRequest := ⟨[116], [], [], .ofString "Completed"⟩
    ∃ s, runSchedule r₁ r₂ ⟨(TaskManager.empty.createTask t₀).2, .start, .start⟩
        [false, true, false, true] = some s ∧ s.finished ∧
      s.manager.getTask [116] ≠ some (mergeUpdate (mergeUpdate t₀ r₁) r₂) ∧
      s.manager.getTask [116] ≠ some (mergeUpdate (mergeUpdate t₀ r₂) r₁) :=
  ⟨_, rfl, ⟨⟨_, rfl⟩, ⟨_, rfl⟩⟩, by decide, by decide⟩

end ArchitectureCourse.Tasks
