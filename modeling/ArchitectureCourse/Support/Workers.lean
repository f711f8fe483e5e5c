import Mathlib.Data.List.Basic

/-!
# Handlers as threads of locked calls

The REST server runs each request on a thread of httplib's pool, and the gRPC server
each RPC on a thread of its own pool.  Both reach their shared store only through
member functions that hold the store's mutex for the length of one call, and what a
handler does between two calls touches nothing shared.  A handler is therefore a
sequence of atomic calls, and which call it makes next depends on what the earlier calls
returned.

A `Worker` is such a handler: finished with its answer, or waiting for the lock to make
its next call, which reads the store and gives the store after the call and the rest of
the handler.  A `Pool` is the workers in flight and the store they share, and the
scheduler lets any waiting worker make its call.  This module proves, once for every
store and every handler, what the REST and gRPC developments use: a worker whose calls
run back to back ends as its handler run alone, and when every call a worker can make is
a call of the store's API, every store a run reaches is the first store after a
sequence of API calls, so every invariant the API calls keep holds at every step of
every interleaving.
-/

namespace ArchitectureCourse

/-- A handler on a store `σ` with answers `ρ`: finished, or waiting for the lock to make
its next call, which gives the store after the call and the rest of the handler. -/
inductive Worker (σ ρ : Type) where
  | done (answer : ρ)
  | call (next : σ → Worker σ ρ) (effect : σ → σ)

namespace Worker

variable {σ ρ : Type}

/-- A handler whose one call gives its answer. -/
def single (f : σ → ρ × σ) : Worker σ ρ :=
  call (fun s => done (f s).1) fun s => (f s).2

/-- The answer and the store of a handler run with no other call in between. -/
def runAlone : Worker σ ρ → σ → ρ × σ
  | done answer, s => (answer, s)
  | call next effect, s => runAlone (next s) (effect s)

/-- The number of calls a handler makes when run alone. -/
def callsAlone : Worker σ ρ → σ → Nat
  | done _, _ => 0
  | call next effect, s => callsAlone (next s) (effect s) + 1

/-- Every call the handler can make, whatever the earlier calls returned, is `apply a`
for some call `a` of the store's API. -/
inductive Performs {α : Type} (apply : α → σ → σ) : Worker σ ρ → Prop
  | done (answer : ρ) : Performs apply (done answer)
  | call {next : σ → Worker σ ρ} {effect : σ → σ} (a : α) (heffect : effect = apply a)
      (hnext : ∀ s, Performs apply (next s)) : Performs apply (call next effect)

theorem Performs.single {α : Type} {apply : α → σ → σ} {f : σ → ρ × σ} (a : α)
    (ha : (fun s => (f s).2) = apply a) : (single f).Performs apply :=
  .call a ha fun _ => .done _

/-- A handler whose calls are calls of one API makes calls of any API that can express
each of them. -/
theorem Performs.map {α β : Type} {apply : α → σ → σ} {apply' : β → σ → σ} (f : α → β)
    (hf : ∀ a, apply a = apply' (f a)) {w : Worker σ ρ} (h : w.Performs apply) : w.Performs apply' := by
  induction h with
  | done answer => exact .done answer
  | call a heffect _ ih => exact .call (f a) (heffect.trans (hf a)) ih

/-- The handler `w`, then the handler its answer chooses. -/
def bind {ρ' : Type} : Worker σ ρ → (ρ → Worker σ ρ') → Worker σ ρ'
  | done answer, f => f answer
  | call next effect, f => call (fun s => (next s).bind f) effect

/-- Every call the handler can make from a store with `P`, whatever the earlier calls
returned, gives a store with `P`: the guarantee a handler that relies on `P` gives. -/
inductive Keeps (P : σ → Prop) : Worker σ ρ → Prop
  | done (answer : ρ) : Keeps P (done answer)
  | call {next : σ → Worker σ ρ} {effect : σ → σ} (heffect : ∀ s, P s → P (effect s))
      (hnext : ∀ s, P s → Keeps P (next s)) : Keeps P (call next effect)

@[simp] theorem runAlone_single (f : σ → ρ × σ) (s : σ) : (single f).runAlone s = f s :=
  rfl

theorem runAlone_bind {ρ' : Type} (w : Worker σ ρ) (f : ρ → Worker σ ρ') (s : σ) :
    (w.bind f).runAlone s = (f (w.runAlone s).1).runAlone (w.runAlone s).2 := by
  induction w generalizing s with
  | done answer => rfl
  | call next effect ih => exact ih s (effect s)

theorem Keeps.single {P : σ → Prop} {f : σ → ρ × σ} (hf : ∀ s, P s → P (f s).2) : (single f).Keeps P :=
  .call hf fun _ _ => .done _

theorem Keeps.bind {ρ' : Type} {P : σ → Prop} {w : Worker σ ρ} {f : ρ → Worker σ ρ'} (hw : w.Keeps P)
    (hf : ∀ answer, (f answer).Keeps P) : (w.bind f).Keeps P := by
  induction hw with
  | done answer => exact hf answer
  | call heffect _ ih => exact .call heffect ih

/-- A handler that makes only API calls keeps every invariant that each API call keeps. -/
theorem Performs.keeps {α : Type} {apply : α → σ → σ} {P : σ → Prop} (hP : ∀ a s, P s → P (apply a s))
    {w : Worker σ ρ} (h : w.Performs apply) : w.Keeps P := by
  induction h with
  | done answer => exact .done answer
  | call a heffect _ ih => exact .call (fun s hs => heffect ▸ hP a s hs) fun s _ => ih s

/-- Handlers served one after another, each to its end: their answers and the store. -/
def serveAlone : List (Worker σ ρ) → σ → List ρ × σ
  | [], s => ([], s)
  | w :: ws, s => ((w.runAlone s).1 :: (serveAlone ws (w.runAlone s).2).1, (serveAlone ws (w.runAlone s).2).2)

/-- Handlers that each answer as a sequential handler when run alone, served one after
another: the store is the sequential handlers' fold, and each answers on the store the
handlers before it left. -/
theorem serveAlone_map {α : Type} (worker : α → Worker σ ρ) (handle : α → σ → ρ × σ)
    (hw : ∀ x s, (worker x).runAlone s = handle x s) (xs : List α) (s : σ) :
    (serveAlone (xs.map worker) s).2 = xs.foldl (fun s x => (handle x s).2) s ∧
      ∀ (i : Nat) (x : α), xs[i]? = some x →
        (serveAlone (xs.map worker) s).1[i]? =
          some (handle x ((xs.take i).foldl (fun s x => (handle x s).2) s)).1 := by
  induction xs generalizing s with
  | nil => exact ⟨rfl, fun _ _ h => by simp at h⟩
  | cons x xs ih =>
    obtain ⟨hstore, hanswers⟩ := ih (handle x s).2
    simp only [List.map_cons, serveAlone, hw]
    refine ⟨hstore, fun i x' hx' => ?_⟩
    cases i with
    | zero =>
      obtain rfl : x = x' := by simpa using hx'
      simp
    | succ i => simpa using hanswers i x' (by simpa using hx')

end Worker

/-- The handlers in flight and the store they share. -/
structure Pool (σ ρ : Type) where
  store : σ
  workers : List (Worker σ ρ)

namespace Pool

variable {σ ρ : Type}

/-- The scheduler lets worker `i` make its next call; a finished worker cannot be
scheduled. -/
def step (p : Pool σ ρ) (i : Nat) : Option (Pool σ ρ) :=
  match p.workers[i]? with
  | some (.call next effect) => some ⟨effect p.store, p.workers.set i (next p.store)⟩
  | _ => none

/-- A run of the scheduler, stopped by a step it cannot take. -/
def run : Pool σ ρ → List Nat → Option (Pool σ ρ)
  | p, [] => some p
  | p, i :: schedule => (p.step i).bind (run · schedule)

/-- What one step can do: worker `i` was waiting to make a call, and the store and the
worker move past it. -/
theorem step_eq_some {p p' : Pool σ ρ} {i : Nat} (h : p.step i = some p') :
    ∃ next effect, p.workers[i]? = some (.call next effect) ∧
      p' = ⟨effect p.store, p.workers.set i (next p.store)⟩ := by
  unfold step at h
  split at h
  next next effect hw => exact ⟨next, effect, hw, (Option.some.inj h).symm⟩
  next => cases h

theorem run_cons (p : Pool σ ρ) (i : Nat) (schedule : List Nat) :
    p.run (i :: schedule) = (p.step i).bind (run · schedule) :=
  rfl

theorem run_append (p : Pool σ ρ) (s₁ s₂ : List Nat) :
    p.run (s₁ ++ s₂) = (p.run s₁).bind (run · s₂) := by
  induction s₁ generalizing p with
  | nil => rfl
  | cons i s₁ ih =>
    rw [List.cons_append, run_cons, run_cons]
    cases p.step i <;> simp [ih]

theorem set_getElem?_self {l : List (Worker σ ρ)} {i : Nat} {w : Worker σ ρ} (h : l[i]? = some w) :
    l.set i w = l := by
  have hlt : i < l.length := (List.getElem?_eq_some_iff.mp h).1
  refine List.ext_getElem? fun j => ?_
  by_cases hij : i = j
  · subst hij
    rw [List.getElem?_set_self hlt, h]
  · rw [List.getElem?_set_ne hij]

/-- A worker whose calls run back to back ends as its handler run alone, and nothing
else changes. -/
theorem run_replicate_callsAlone {p : Pool σ ρ} {i : Nat} {w : Worker σ ρ}
    (hw : p.workers[i]? = some w) :
    p.run (List.replicate (w.callsAlone p.store) i) =
      some ⟨(w.runAlone p.store).2, p.workers.set i (.done (w.runAlone p.store).1)⟩ := by
  induction w generalizing p with
  | done answer => simp [Worker.callsAlone, Worker.runAlone, run, set_getElem?_self hw]
  | call next effect ih =>
    have hlt : i < p.workers.length := (List.getElem?_eq_some_iff.mp hw).1
    have hstep : p.step i = some ⟨effect p.store, p.workers.set i (next p.store)⟩ := by
      simp [step, hw]
    have hnext := @ih p.store ⟨effect p.store, p.workers.set i (next p.store)⟩
      (List.getElem?_set_self hlt)
    simp only [Worker.callsAlone, List.replicate_succ, run_cons, hstep, Option.some_bind, hnext,
      List.set_set]
    rfl

/-- Serving the workers after `pre` one after another, each to its end, is one of the
interleavings, and ends with the answers and the store of the handlers served alone. -/
theorem run_serveAlone (pre ws : List (Worker σ ρ)) (s : σ) :
    ∃ schedule, run ⟨s, pre ++ ws⟩ schedule =
      some ⟨(Worker.serveAlone ws s).2, pre ++ (Worker.serveAlone ws s).1.map .done⟩ := by
  induction ws generalizing pre s with
  | nil => exact ⟨[], by simp [run, Worker.serveAlone]⟩
  | cons w ws ih =>
    obtain ⟨schedule, hrest⟩ := ih (pre ++ [.done (w.runAlone s).1]) (w.runAlone s).2
    have hw : (pre ++ w :: ws)[pre.length]? = some w := by
      rw [List.getElem?_append_right (le_refl _), Nat.sub_self, List.getElem?_cons_zero]
    refine ⟨List.replicate (w.callsAlone s) pre.length ++ schedule, ?_⟩
    rw [run_append, run_replicate_callsAlone hw, Option.some_bind,
      List.set_append_right _ _ (le_refl _), Nat.sub_self, List.set_cons_zero]
    simpa [Worker.serveAlone] using hrest

/-- Handlers that answer as sequential handlers when run alone: serving them one at a
time, each to its end, is one of the interleavings, and it ends with the store and the
answers of the sequential handlers. -/
theorem run_serial {α : Type} (worker : α → Worker σ ρ) (handle : α → σ → ρ × σ)
    (hw : ∀ x s, (worker x).runAlone s = handle x s) (xs : List α) (s : σ) :
    ∃ (schedule : List Nat) (p : Pool σ ρ), run ⟨s, xs.map worker⟩ schedule = some p ∧
      p.store = xs.foldl (fun s x => (handle x s).2) s ∧
      ∀ (i : Nat) (x : α), xs[i]? = some x →
        p.workers[i]? = some (.done (handle x ((xs.take i).foldl (fun s x => (handle x s).2) s)).1) := by
  obtain ⟨schedule, hrun⟩ := run_serveAlone [] (xs.map worker) s
  obtain ⟨hstore, hanswers⟩ := Worker.serveAlone_map worker handle hw xs s
  refine ⟨schedule, _, hrun, hstore, fun i x hx => ?_⟩
  simp [hanswers i x hx]

/-- One step keeps every worker to the API calls and is itself one API call. -/
theorem step_performs {α : Type} {apply : α → σ → σ} {p p' : Pool σ ρ} {i : Nat}
    (hp : ∀ w ∈ p.workers, w.Performs apply) (h : p.step i = some p') :
    (∀ w ∈ p'.workers, w.Performs apply) ∧ ∃ a, p'.store = apply a p.store := by
  obtain ⟨next, effect, hw, rfl⟩ := step_eq_some h
  cases hp (.call next effect) (List.mem_iff_getElem?.mpr ⟨i, hw⟩) with
  | call a heffect hnext =>
    refine ⟨fun w hmem => ?_, a, congrFun heffect _⟩
    rcases List.mem_or_eq_of_mem_set hmem with hmem | rfl
    · exact hp w hmem
    · exact hnext _

/-- Over every schedule, a pool whose workers make only API calls reaches only stores
that a sequence of API calls reaches, in the order the schedule made them. -/
theorem run_performs {α : Type} {apply : α → σ → σ} {p p' : Pool σ ρ} {schedule : List Nat}
    (hp : ∀ w ∈ p.workers, w.Performs apply) (h : p.run schedule = some p') :
    ∃ calls : List α, p'.store = calls.foldl (fun s a => apply a s) p.store ∧
      ∀ w ∈ p'.workers, w.Performs apply := by
  induction schedule generalizing p with
  | nil =>
    cases h
    exact ⟨[], rfl, hp⟩
  | cons i schedule ih =>
    obtain ⟨p₁, h₁, hrest⟩ := Option.bind_eq_some.mp h
    obtain ⟨hp₁, a, hstore⟩ := step_performs hp h₁
    obtain ⟨calls, hcalls, hp'⟩ := ih hp₁ hrest
    exact ⟨a :: calls, by rw [hcalls, hstore]; rfl, hp'⟩

/-- One step from a store with `P`, by workers that keep `P`, gives a store with `P`
and workers that keep `P`. -/
theorem step_keeps {P : σ → Prop} {p p' : Pool σ ρ} {i : Nat} (hp : ∀ w ∈ p.workers, w.Keeps P)
    (hs : P p.store) (h : p.step i = some p') : P p'.store ∧ ∀ w ∈ p'.workers, w.Keeps P := by
  obtain ⟨next, effect, hw, rfl⟩ := step_eq_some h
  cases hp (.call next effect) (List.mem_iff_getElem?.mpr ⟨i, hw⟩) with
  | call heffect hnext =>
    refine ⟨heffect _ hs, fun w hmem => ?_⟩
    rcases List.mem_or_eq_of_mem_set hmem with hmem | rfl
    · exact hp w hmem
    · exact hnext _ hs

/-- Workers that each keep `P`, started on a store with `P`: over every schedule, every
store the run reaches has `P`. -/
theorem run_keeps {P : σ → Prop} {p p' : Pool σ ρ} {schedule : List Nat}
    (hp : ∀ w ∈ p.workers, w.Keeps P) (hs : P p.store) (h : p.run schedule = some p') :
    P p'.store ∧ ∀ w ∈ p'.workers, w.Keeps P := by
  induction schedule generalizing p with
  | nil =>
    cases h
    exact ⟨hs, hp⟩
  | cons i schedule ih =>
    obtain ⟨p₁, h₁, hrest⟩ := Option.bind_eq_some.mp h
    obtain ⟨hs₁, hp₁⟩ := step_keeps hp hs h₁
    exact ih hp₁ hs₁ hrest

/-- An invariant that every API call keeps holds at every step of every interleaving of
workers that make only API calls. -/
theorem run_invariant {α : Type} {apply : α → σ → σ} (P : σ → Prop)
    (hP : ∀ a s, P s → P (apply a s)) {p p' : Pool σ ρ} {schedule : List Nat}
    (hp : ∀ w ∈ p.workers, w.Performs apply) (h : p.run schedule = some p') (hs : P p.store) :
    P p'.store :=
  (run_keeps (fun w hw => (hp w hw).keeps hP) hs h).1

end Pool

end ArchitectureCourse
