import ArchitectureCourse.JsonRpc.Dispatch

/-!
# The secret-data handlers

`SecretData::SecretDataManager` registers three JSON-RPC methods over its
`data_store_`: `manageSecretData` (add, get or delete one entry), `listSecretData`
and `getSecretDataStats`.  Each handler validates its parameters, converts the members
it reads to strings (a non-string throws the library's `type_error`), and then works
on the store under the manager's mutex, so every call is one atomic step on the store.

The store discipline proved here: an entry never changes while it is stored, it leaves
the store only through a `delete` declared at level `superAdmin`, an `add` succeeds
exactly when its fields convert and its id is free, and a failed call or a read leaves
the store as it was.  The texts the manager registers for its error codes in `ru-RU`,
`fr-FR` and `es-ES` never reach a client: every error is answered in `en-US`.
-/

namespace ArchitectureCourse.SecretDataManager

open JsonRpc

/-- `AccessLevel`. -/
inductive AccessLevel where
  | USER
  | ADMIN
  | SUPER_ADMIN
  deriving DecidableEq, Repr

/-- The underlying value `static_cast<int>(level)`. -/
def AccessLevel.toInt : AccessLevel → Int
  | USER => 0
  | ADMIN => 1
  | SUPER_ADMIN => 2

/-- `SecretData`.  The owner and the two timestamps are written once and read by no
handler, and are left out. -/
structure SecretData where
  id : String
  data : String
  minAccessLevel : AccessLevel
  deriving DecidableEq, Repr

/-- `data_store_`, the state the handlers own. -/
abbrev DataStore := AList (fun _ : String => SecretData)

/-- `AppErrorCodes::ACCESS_DENIED`. -/
def ACCESS_DENIED : Int := 100
/-- `AppErrorCodes::INVALID_ACCESS_LEVEL`. -/
def INVALID_ACCESS_LEVEL : Int := 101
/-- `AppErrorCodes::DATA_NOT_FOUND`. -/
def DATA_NOT_FOUND : Int := 102
/-- `AppErrorCodes::INVALID_ACTION`. -/
def INVALID_ACTION : Int := 103
/-- `AppErrorCodes::DATA_ALREADY_EXISTS`. -/
def DATA_ALREADY_EXISTS : Int := 104
/-- `AppErrorCodes::MISSING_REQUIRED_FIELD`. -/
def MISSING_REQUIRED_FIELD : Int := 105

/-- `stringToAccessLevel`: unknown strings give `USER`. -/
def stringToAccessLevel (levelStr : String) : AccessLevel :=
  if levelStr = "superAdmin" then .SUPER_ADMIN
  else if levelStr = "admin" then .ADMIN
  else .USER

/-- `accessLevelToString`. -/
def accessLevelToString : AccessLevel → String
  | .SUPER_ADMIN => "superAdmin"
  | .ADMIN => "admin"
  | .USER => "user"

/-- `hasPermission`: `SUPER_ADMIN > ADMIN > USER` on the underlying values. -/
def hasPermission (userLevel requiredLevel : AccessLevel) : Bool :=
  decide (requiredLevel.toInt ≤ userLevel.toInt)

/-- A thrown `JsonRpcError` with no data. -/
def fail (code : Int) (message : String) (store : DataStore) : Except Thrown Json × DataStore :=
  (.error (.rpcError ⟨code, message, .null⟩), store)

/-- `params[key]` for a member known to be present. -/
def member (params : Json) (key : String) : Json :=
  (params.get? key).getD .null

/-- The `{"status": "success", "message": message, ...}` replies. -/
def success (message : String) (rest : List (String × Json)) : Json :=
  .obj ([("status", .str "success"), ("message", .str message)] ++ rest)

/-- `handleAddData`: the new entry requires the level of the request that adds it. -/
def handleAddData (dataId userData : String) (userAccessLevel : AccessLevel) (store : DataStore) :
    Except Thrown Json × DataStore :=
  match store.lookup dataId with
  | some _ => fail DATA_ALREADY_EXISTS "Data with ID already exists" store
  | none =>
    (.ok (success "Data added successfully" [("data", .null)]),
      store.insert dataId ⟨dataId, userData, userAccessLevel⟩)

/-- `handleGetData`. -/
def handleGetData (dataId : String) (userAccessLevel : AccessLevel) (store : DataStore) :
    Except Thrown Json × DataStore :=
  match store.lookup dataId with
  | none => fail DATA_NOT_FOUND "Data not found" store
  | some data =>
    if hasPermission userAccessLevel data.minAccessLevel then
      (.ok (success "Data retrieved successfully" [("data", .str data.data)]), store)
    else fail ACCESS_DENIED "Access denied to this data" store

/-- `handleDeleteData`: only `SUPER_ADMIN` deletes. -/
def handleDeleteData (dataId : String) (userAccessLevel : AccessLevel) (store : DataStore) :
    Except Thrown Json × DataStore :=
  if userAccessLevel ≠ .SUPER_ADMIN then fail ACCESS_DENIED "Only superAdmin can delete data" store
  else
    match store.lookup dataId with
    | none => fail DATA_NOT_FOUND "Data not found" store
    | some _ => (.ok (success "Data deleted successfully" [("data", .null)]), store.erase dataId)

/-- The conversions at the top of `handleManageSecretData`, in the order the code makes
them: `action`, `dataID`, `accessLevel`, then `userData` (the empty string when absent). -/
def manageFields (params : Json) : Except String (String × String × AccessLevel × String) := do
  let action ← (member params "action").getString
  let dataId ← (member params "dataID").getString
  let level ← (member params "accessLevel").getString
  let userData ← if params.contains "userData" then (member params "userData").getString else .ok ""
  return (action, dataId, stringToAccessLevel level, userData)

/-- `handleManageSecretData`. -/
def handleManageSecretData (params : Json) (_language : String) (store : DataStore) :
    Except Thrown Json × DataStore :=
  if !(params.contains "action" && params.contains "dataID" && params.contains "accessLevel") then
    fail MISSING_REQUIRED_FIELD "Missing required field: action, dataID, or accessLevel" store
  else
    match manageFields params with
    | .error what => (.error (.exception what), store)
    | .ok (action, dataId, level, userData) =>
      if action = "add" then handleAddData dataId userData level store
      else if action = "get" then handleGetData dataId level store
      else if action = "delete" then handleDeleteData dataId level store
      else fail INVALID_ACTION ("Invalid action: " ++ action) store

/-- The ids of the entries a level may read, in the store's iteration order. -/
def accessibleIds (level : AccessLevel) (store : DataStore) : List String :=
  (store.entries.filter fun e => hasPermission level e.2.minAccessLevel).map (·.1)

/-- `handleListSecretData`. -/
def handleListSecretData (params : Json) (_language : String) (store : DataStore) :
    Except Thrown Json × DataStore :=
  if !params.contains "accessLevel" then fail MISSING_REQUIRED_FIELD "accessLevel is required" store
  else
    match (member params "accessLevel").getString with
    | .error what => (.error (.exception what), store)
    | .ok levelStr =>
      let ids := accessibleIds (stringToAccessLevel levelStr) store
      (.ok (success "Data list retrieved successfully"
        [("data", .arr (ids.map .str)), ("count", .int ids.length)]), store)

/-- `handleGetStats`; `now` is the value of `time(nullptr)` at the call. -/
def handleGetStats (now : Int) (params : Json) (_language : String) (store : DataStore) :
    Except Thrown Json × DataStore :=
  if !params.contains "accessLevel" then fail MISSING_REQUIRED_FIELD "accessLevel is required" store
  else
    match (member params "accessLevel").getString with
    | .error what => (.error (.exception what), store)
    | .ok levelStr =>
      if stringToAccessLevel levelStr = .USER then
        fail ACCESS_DENIED "Only admin or superAdmin can view stats" store
      else
        let count (level : AccessLevel) : Json := .int (accessibleIds level store).length
        (.ok (success "Statistics retrieved successfully"
          [("stats", .obj [("total_data", .int store.entries.length),
            ("user_accessible", count .USER), ("admin_accessible", count .ADMIN),
            ("super_admin_accessible", count .SUPER_ADMIN), ("created_at", .int now)])]), store)

/-- The texts `registerErrorMessages` puts into the catalog. -/
def errorMessageTable : List (Int × String × String) :=
  [(ACCESS_DENIED, "en-US", "Access denied"), (INVALID_ACCESS_LEVEL, "en-US", "Invalid access level"),
   (DATA_NOT_FOUND, "en-US", "Data not found"), (INVALID_ACTION, "en-US", "Invalid action"),
   (DATA_ALREADY_EXISTS, "en-US", "Data already exists"),
   (MISSING_REQUIRED_FIELD, "en-US", "Missing required field"),
   (ACCESS_DENIED, "ru-RU", "Доступ запрещен"), (INVALID_ACCESS_LEVEL, "ru-RU", "Неверный уровень доступа"),
   (DATA_NOT_FOUND, "ru-RU", "Данные не найдены"), (INVALID_ACTION, "ru-RU", "Неверное действие"),
   (DATA_ALREADY_EXISTS, "ru-RU", "Данные уже существуют"),
   (MISSING_REQUIRED_FIELD, "ru-RU", "Отсутствует обязательное поле"),
   (ACCESS_DENIED, "fr-FR", "Accès refusé"), (INVALID_ACCESS_LEVEL, "fr-FR", "Niveau d\x27accès invalide"),
   (DATA_NOT_FOUND, "fr-FR", "Données non trouvées"), (INVALID_ACTION, "fr-FR", "Action invalide"),
   (DATA_ALREADY_EXISTS, "fr-FR", "Données déjà existantes"),
   (ACCESS_DENIED, "es-ES", "Acceso denegado"), (INVALID_ACCESS_LEVEL, "es-ES", "Nivel de acceso inválido"),
   (DATA_NOT_FOUND, "es-ES", "Datos no encontrados"), (INVALID_ACTION, "es-ES", "Acción inválida"),
   (DATA_ALREADY_EXISTS, "es-ES", "Datos ya existen")]

/-- `RegisterMethods`: the three methods, then the catalog texts. -/
def registerMethods (now : Int) (registry : MethodRegistry DataStore) : MethodRegistry DataStore :=
  let registry := registry
    |>.registerMethod ⟨"manageSecretData", handleManageSecretData⟩
    |>.registerMethod ⟨"listSecretData", handleListSecretData⟩
    |>.registerMethod ⟨"getSecretDataStats", handleGetStats now⟩
  errorMessageTable.foldl (fun r entry => r.setErrorMessage entry.1 entry.2.1 entry.2.2) registry

/-! ## Calls and runs -/

/-- A call of one of the three handlers the manager registers. -/
inductive Call where
  | manageSecretData (params : Json) (language : String)
  | listSecretData (params : Json) (language : String)
  | getSecretDataStats (now : Int) (params : Json) (language : String)

/-- The handler a call reaches, on the store. -/
def Call.apply : Call → DataStore → Except Thrown Json × DataStore
  | manageSecretData params language, store => handleManageSecretData params language store
  | listSecretData params language, store => handleListSecretData params language store
  | getSecretDataStats now params language, store => handleGetStats now params language store

/-- The store after a sequence of calls. -/
def runCalls : List Call → DataStore → DataStore
  | [], store => store
  | call :: calls, store => runCalls calls (call.apply store).2

/-- A `manageSecretData` call that deletes `id` declaring the level `superAdmin`. -/
def Call.isSuperAdminDelete (id : String) : Call → Bool
  | manageSecretData params _ =>
    match manageFields params with
    | .ok (action, dataId, level, _) => action == "delete" && dataId == id && level == .SUPER_ADMIN
    | .error _ => false
  | _ => false

/-- The calls that only read: a `get`, `listSecretData` and `getSecretDataStats`. -/
def Call.isRead : Call → Bool
  | manageSecretData params _ =>
    match params.get? "action" with
    | some (.str "get") => true
    | _ => false
  | _ => true

theorem except_bind_eq_ok {ε α β : Type} {x : Except ε α} {f : α → Except ε β} {b : β} :
    x >>= f = .ok b ↔ ∃ a, x = .ok a ∧ f a = .ok b := by
  cases x <;> simp [bind, Except.bind]

theorem getString_member_eq_ok {params : Json} {key s : String}
    (h : (member params key).getString = .ok s) : params.get? key = some (.str s) := by
  unfold member at h
  cases hk : params.get? key with
  | none => simp [hk, Json.getString] at h
  | some j => cases j <;> simp_all [Json.getString]

/-- What a successful extraction of the fields says about the parameters. -/
theorem manageFields_eq_ok {params : Json} {action dataId userData : String} {level : AccessLevel}
    (h : manageFields params = .ok (action, dataId, level, userData)) :
    params.get? "action" = some (.str action) ∧ params.get? "dataID" = some (.str dataId) ∧
      ∃ levelStr, params.get? "accessLevel" = some (.str levelStr) ∧
        stringToAccessLevel levelStr = level := by
  simp only [manageFields, except_bind_eq_ok] at h
  obtain ⟨a, ha, d, hd, l, hl, heq⟩ := h
  obtain ⟨rfl, rfl, rfl⟩ : a = action ∧ d = dataId ∧ stringToAccessLevel l = level := by
    split at heq <;> simp only [except_bind_eq_ok] at heq <;>
      obtain ⟨u, -, heq⟩ := heq <;> simp_all [pure, Except.pure]
  exact ⟨getString_member_eq_ok ha, getString_member_eq_ok hd, l, getString_member_eq_ok hl, rfl⟩

theorem contains_of_manageFields {params : Json} {action dataId userData : String}
    {level : AccessLevel} (h : manageFields params = .ok (action, dataId, level, userData)) :
    (params.contains "action" && params.contains "dataID" && params.contains "accessLevel") = true := by
  obtain ⟨ha, hd, l, hl, -⟩ := manageFields_eq_ok h
  simp [Json.contains, ha, hd, hl]

/-- What `handleAddData` does to the store: nothing, or a new entry under a free id. -/
theorem handleAddData_spec (dataId userData : String) (level : AccessLevel) (store : DataStore) :
    (handleAddData dataId userData level store).2 = store ∨
      (store.lookup dataId = none ∧ (handleAddData dataId userData level store).1.isOk = true ∧
        (handleAddData dataId userData level store).2 = store.insert dataId ⟨dataId, userData, level⟩) := by
  unfold handleAddData
  cases store.lookup dataId <;> simp [fail, Except.isOk, Except.toBool]

theorem handleGetData_store (dataId : String) (level : AccessLevel) (store : DataStore) :
    (handleGetData dataId level store).2 = store := by
  unfold handleGetData
  split
  · rfl
  · split <;> rfl

/-- What `handleDeleteData` does to the store: nothing, or a `superAdmin` removal. -/
theorem handleDeleteData_spec (dataId : String) (level : AccessLevel) (store : DataStore) :
    (handleDeleteData dataId level store).2 = store ∨
      (level = .SUPER_ADMIN ∧ (handleDeleteData dataId level store).1.isOk = true ∧
        (handleDeleteData dataId level store).2 = store.erase dataId) := by
  unfold handleDeleteData
  split
  · exact .inl rfl
  · split
    · exact .inl rfl
    · exact .inr ⟨not_not.mp ‹_›, rfl, rfl⟩

/-- The three ways a `manageSecretData` call can leave the store: unchanged, with a
new entry under a free id, or without an entry removed by a `superAdmin` delete. -/
theorem handleManageSecretData_store (params : Json) (language : String) (store : DataStore) :
    (handleManageSecretData params language store).2 = store ∨
      (∃ dataId userData level, manageFields params = .ok ("add", dataId, level, userData) ∧
        store.lookup dataId = none ∧
        (handleManageSecretData params language store).1.isOk = true ∧
        (handleManageSecretData params language store).2 =
          store.insert dataId ⟨dataId, userData, level⟩) ∨
      (∃ dataId userData, manageFields params = .ok ("delete", dataId, .SUPER_ADMIN, userData) ∧
        (handleManageSecretData params language store).1.isOk = true ∧
        (handleManageSecretData params language store).2 = store.erase dataId) := by
  unfold handleManageSecretData
  split
  · exact .inl rfl
  · split
    · exact .inl rfl
    next action dataId level userData hf =>
      split_ifs with hadd hget hdel
      · subst hadd
        rcases handleAddData_spec dataId userData level store with hs | ⟨hl, hok, hs⟩
        · exact .inl hs
        · exact .inr (.inl ⟨dataId, userData, level, hf, hl, hok, hs⟩)
      · exact .inl (handleGetData_store dataId level store)
      · subst hdel
        rcases handleDeleteData_spec dataId level store with hs | ⟨rfl, hok, hs⟩
        · exact .inl hs
        · exact .inr (.inr ⟨dataId, userData, hf, hok, hs⟩)
      · exact .inl rfl

theorem handleListSecretData_store (params : Json) (language : String) (store : DataStore) :
    (handleListSecretData params language store).2 = store := by
  unfold handleListSecretData
  split
  · rfl
  · split <;> rfl

theorem handleGetStats_store (now : Int) (params : Json) (language : String) (store : DataStore) :
    (handleGetStats now params language store).2 = store := by
  unfold handleGetStats
  split
  · rfl
  · split
    · rfl
    · split <;> rfl

/-- One call keeps a stored entry as it is, unless it is a `superAdmin` delete of its id,
which removes it. -/
theorem apply_lookup (call : Call) (store : DataStore) {id : String} {e : SecretData}
    (h : store.lookup id = some e) :
    (call.apply store).2.lookup id = some e ∨
      (call.isSuperAdminDelete id = true ∧ (call.apply store).2.lookup id = none) := by
  cases call with
  | listSecretData params language => exact .inl (by rw [Call.apply, handleListSecretData_store, h])
  | getSecretDataStats now params language =>
    exact .inl (by rw [Call.apply, handleGetStats_store, h])
  | manageSecretData params language =>
    rcases handleManageSecretData_store params language store with
      hs | ⟨d, u, l, -, hl, -, hs⟩ | ⟨d, u, hf, -, hs⟩ <;> simp only [Call.apply, hs]
    · exact .inl h
    · have hne : id ≠ d := by rintro rfl; simp [h] at hl
      exact .inl (by rw [AList.lookup_insert_ne hne, h])
    · by_cases hd : id = d
      · subst hd
        exact .inr ⟨by simp [Call.isSuperAdminDelete, hf], AList.lookup_erase _ _⟩
      · exact .inl (by rw [AList.lookup_erase_ne hd, h])

/-- Over a run with no `superAdmin` delete of its id, a stored entry stays, unchanged. -/
theorem runCalls_lookup (calls : List Call) {store : DataStore} {id : String} {e : SecretData}
    (h : store.lookup id = some e) (hdel : ∀ call ∈ calls, call.isSuperAdminDelete id = false) :
    (runCalls calls store).lookup id = some e := by
  induction calls generalizing store with
  | nil => exact h
  | cons call calls ih =>
    refine ih ?_ fun c hc => hdel c (List.mem_cons_of_mem _ hc)
    rcases apply_lookup call store h with h' | ⟨hd, -⟩
    · exact h'
    · simp [hdel call (List.mem_cons_self _ _)] at hd

/-- An `add` whose fields convert succeeds exactly when its id is free. -/
theorem add_isOk_iff {params : Json} (language : String) (store : DataStore)
    {dataId userData : String} {level : AccessLevel}
    (hf : manageFields params = .ok ("add", dataId, level, userData)) :
    (handleManageSecretData params language store).1.isOk = true ↔ store.lookup dataId = none := by
  simp only [handleManageSecretData, contains_of_manageFields hf, hf, handleAddData]
  cases store.lookup dataId <;> simp [fail, Except.isOk, Except.toBool]

/-- Fields that do not convert make the call fail. -/
theorem handleManageSecretData_isOk_of_error {params : Json} (language : String) (store : DataStore)
    {what : String} (hf : manageFields params = .error what) :
    (handleManageSecretData params language store).1.isOk = false := by
  unfold handleManageSecretData
  split
  · rfl
  · rw [hf]
    rfl

/-- Whatever its other fields, an `add` succeeds exactly when its fields convert and its
id is free. -/
theorem add_isOk_iff_of_action {params : Json} (language : String) (store : DataStore)
    (haction : params.get? "action" = some (.str "add")) :
    (handleManageSecretData params language store).1.isOk = true ↔
      ∃ dataId level userData, manageFields params = .ok ("add", dataId, level, userData) ∧
        store.lookup dataId = none := by
  rcases hf : manageFields params with what | ⟨action, dataId, level, userData⟩
  · simp [handleManageSecretData_isOk_of_error language store hf]
  · obtain rfl : "add" = action := by simpa [haction] using (manageFields_eq_ok hf).1
    simp [add_isOk_iff language store hf]

/-- A call that fails, and a call that only reads, leaves the store as it was. -/
theorem apply_store_of_error_or_read (call : Call) (store : DataStore)
    (h : (call.apply store).1.isOk = false ∨ call.isRead = true) : (call.apply store).2 = store := by
  cases call with
  | listSecretData params language => exact handleListSecretData_store params language store
  | getSecretDataStats now params language => exact handleGetStats_store now params language store
  | manageSecretData params language =>
    rcases handleManageSecretData_store params language store with
      hs | ⟨d, u, l, hf, -, hok, -⟩ | ⟨d, u, hf, hok, -⟩
    · exact hs
    all_goals
      simp only [Call.apply, Call.isRead, hok, (manageFields_eq_ok hf).1] at h
      simp at h

/-- What a store shows without its data strings: each entry's key, id and level, in the
store's order. -/
def shape (store : DataStore) : List (String × String × AccessLevel) :=
  store.entries.map fun e => (e.1, e.2.id, e.2.minAccessLevel)

/-- A `manageSecretData` call whose fields convert and whose action is `get`: the one
call that may answer with an entry's data. -/
def Call.isGet : Call → Bool
  | manageSecretData params _ =>
    match manageFields params with
    | .ok (action, _, _, _) => action == "get"
    | .error _ => false
  | _ => false

/-- The call is the `add` request that stores `e` under `id`: its fields convert, its
action is `add`, its `dataID` is `id`, and it declares `e`'s level and carries `e`'s
data. -/
def Call.Adds (call : Call) (id : String) (e : SecretData) : Prop :=
  ∃ params language, call = .manageSecretData params language ∧
    manageFields params = .ok ("add", id, e.minAccessLevel, e.data)

theorem lookup_shape (store : DataStore) (id : String) :
    (shape store).lookup id = (store.lookup id).map fun e => (e.id, e.minAccessLevel) := by
  simp only [shape, AList.lookup]
  generalize store.entries = entries
  induction entries with
  | nil => rfl
  | cons e entries ih =>
    obtain ⟨k, v⟩ := e
    by_cases h : id = k
    · subst h
      simp [List.dlookup_cons_eq]
    · have hb : (id == k) = false := by simpa using h
      simp [List.lookup_cons, List.dlookup_cons_ne entries ⟨k, v⟩ h, hb, ih]

theorem lookup_isSome_of_shape {s₁ s₂ : DataStore} (h : shape s₁ = shape s₂) (id : String) :
    (s₁.lookup id).isSome = (s₂.lookup id).isSome := by
  have := congrArg (List.lookup id) h
  rw [lookup_shape, lookup_shape] at this
  simpa using congrArg Option.isSome this

theorem accessibleIds_eq_of_shape {s₁ s₂ : DataStore} (h : shape s₁ = shape s₂) (level : AccessLevel) :
    accessibleIds level s₁ = accessibleIds level s₂ := by
  have hids : ∀ store : DataStore, accessibleIds level store =
      ((shape store).filter fun t => hasPermission level t.2.2).map (·.1) := fun store => by
    simp only [accessibleIds, shape, List.filter_map, List.map_map]
    rfl
  rw [hids, hids, h]

/-- The ids a level may read: each once, and exactly those of the entries whose level is
at most the reader's. -/
theorem mem_accessibleIds (level : AccessLevel) (store : DataStore) (id : String) :
    id ∈ accessibleIds level store ↔
      ∃ e, store.lookup id = some e ∧ e.minAccessLevel.toInt ≤ level.toInt := by
  simp only [accessibleIds, List.mem_map, List.mem_filter, hasPermission, decide_eq_true_eq]
  constructor
  · rintro ⟨⟨k, e⟩, ⟨he, hle⟩, rfl⟩
    exact ⟨e, AList.mem_lookup_iff.mpr he, hle⟩
  · rintro ⟨e, he, hle⟩
    exact ⟨⟨id, e⟩, ⟨AList.mem_lookup_iff.mp he, hle⟩, rfl⟩

theorem nodup_accessibleIds (level : AccessLevel) (store : DataStore) :
    (accessibleIds level store).Nodup :=
  store.nodupKeys.sublist (List.filter_sublist _)

theorem handleAddData_result_of_shape {s₁ s₂ : DataStore} (h : shape s₁ = shape s₂)
    (dataId userData : String) (level : AccessLevel) :
    (handleAddData dataId userData level s₁).1 = (handleAddData dataId userData level s₂).1 := by
  have hsome := lookup_isSome_of_shape h dataId
  unfold handleAddData
  cases h₁ : s₁.lookup dataId <;> cases h₂ : s₂.lookup dataId <;> simp_all [fail]

theorem handleDeleteData_result_of_shape {s₁ s₂ : DataStore} (h : shape s₁ = shape s₂)
    (dataId : String) (level : AccessLevel) :
    (handleDeleteData dataId level s₁).1 = (handleDeleteData dataId level s₂).1 := by
  have hsome := lookup_isSome_of_shape h dataId
  unfold handleDeleteData
  split
  · rfl
  · cases h₁ : s₁.lookup dataId <;> cases h₂ : s₂.lookup dataId <;> simp_all [fail]

/-- A `get` that fails answers the same on every store of the same shape. -/
theorem handleGetData_result_of_shape {s₁ s₂ : DataStore} (h : shape s₁ = shape s₂)
    (dataId : String) (level : AccessLevel) (hfail : (handleGetData dataId level s₁).1.isOk = false) :
    (handleGetData dataId level s₁).1 = (handleGetData dataId level s₂).1 := by
  have hlevel := congrArg (List.lookup dataId) h
  rw [lookup_shape, lookup_shape] at hlevel
  unfold handleGetData at hfail ⊢
  cases h₁ : s₁.lookup dataId <;> cases h₂ : s₂.lookup dataId <;> simp only [h₁, h₂] at hlevel hfail ⊢
  · rfl
  · cases hlevel
  · cases hlevel
  next e₁ e₂ =>
    simp only [Option.map_some', Option.some.injEq, Prod.mk.injEq] at hlevel
    rw [hlevel.2] at hfail ⊢
    split_ifs at hfail ⊢
    · simp [Except.isOk, Except.toBool] at hfail
    · rfl

/-- Every call but a `get` that succeeds answers the same on two stores that differ only
in their data strings. -/
theorem apply_result_of_shape (call : Call) {s₁ s₂ : DataStore} (h : shape s₁ = shape s₂)
    (hcall : call.isGet = false ∨ (call.apply s₁).1.isOk = false) :
    (call.apply s₁).1 = (call.apply s₂).1 := by
  cases call with
  | listSecretData params language =>
    simp only [Call.apply, handleListSecretData]
    split
    · rfl
    · split
      · rfl
      · rw [accessibleIds_eq_of_shape h]
  | getSecretDataStats now params language =>
    have hlen : s₁.entries.length = s₂.entries.length := by
      simpa [shape] using congrArg List.length h
    simp only [Call.apply, handleGetStats]
    split
    · rfl
    · split
      · rfl
      · split
        · rfl
        · simp only [accessibleIds_eq_of_shape h, hlen]
  | manageSecretData params language =>
    simp only [Call.apply, Call.isGet] at hcall ⊢
    unfold handleManageSecretData at hcall ⊢
    split
    · rfl
    · split
      · rfl
      next action dataId level userData hf =>
        simp only [hf] at hcall
        split_ifs with hadd hget hdel
        · exact handleAddData_result_of_shape h dataId userData level
        · subst hget
          simp only [beq_self_eq_true, Bool.true_eq_false, false_or, hadd, if_false, if_true,
            contains_of_manageFields hf, Bool.not_true] at hcall
          exact handleGetData_result_of_shape h dataId level hcall
        · exact handleDeleteData_result_of_shape h dataId level
        · rfl

/-- A `get` answers with an entry's data only for a level at least the entry's. -/
theorem handleManageSecretData_get_ok {params : Json} {language : String} {store : DataStore}
    {dataId userData : String} {level : AccessLevel} {j : Json}
    (hf : manageFields params = .ok ("get", dataId, level, userData))
    (h : (handleManageSecretData params language store).1 = .ok j) :
    ∃ e, store.lookup dataId = some e ∧ e.minAccessLevel.toInt ≤ level.toInt ∧
      j = success "Data retrieved successfully" [("data", .str e.data)] := by
  simp only [handleManageSecretData, contains_of_manageFields hf, hf, Bool.not_true,
    Bool.false_eq_true, if_false] at h
  rw [if_neg (by decide), if_pos trivial, handleGetData] at h
  split at h
  · cases h
  next e he =>
    split_ifs at h with hp
    · cases h
      exact ⟨e, he, by simpa [hasPermission] using hp, rfl⟩
    · cases h

/-- A list whose `accessLevel` is a string answers the ids that level may read. -/
theorem handleListSecretData_eq {params : Json} (language : String) (store : DataStore)
    {levelStr : String} (h : params.get? "accessLevel" = some (.str levelStr)) :
    (handleListSecretData params language store).1 =
      .ok (success "Data list retrieved successfully"
        [("data", .arr ((accessibleIds (stringToAccessLevel levelStr) store).map .str)),
          ("count", .int (accessibleIds (stringToAccessLevel levelStr) store).length)]) := by
  simp [handleListSecretData, Json.contains, h, member, Json.getString]

/-- An entry a call leaves in the store was there before, or the call is the `add` that
stored it, under its own id. -/
theorem apply_lookup_eq_some (call : Call) (store : DataStore) {id : String} {e : SecretData}
    (h : (call.apply store).2.lookup id = some e) :
    store.lookup id = some e ∨ (call.Adds id e ∧ e.id = id) := by
  cases call with
  | listSecretData params language => exact .inl (by rwa [Call.apply, handleListSecretData_store] at h)
  | getSecretDataStats now params language => exact .inl (by rwa [Call.apply, handleGetStats_store] at h)
  | manageSecretData params language =>
    rcases handleManageSecretData_store params language store with
      hs | ⟨d, u, l, hf, -, -, hs⟩ | ⟨d, u, -, -, hs⟩ <;> simp only [Call.apply, hs] at h
    · exact .inl h
    · by_cases hd : id = d
      · subst hd
        rw [AList.lookup_insert] at h
        cases h
        exact .inr ⟨⟨params, language, rfl, hf⟩, rfl⟩
      · exact .inl (by rwa [AList.lookup_insert_ne hd] at h)
    · by_cases hd : id = d
      · subst hd
        rw [AList.lookup_erase] at h
        cases h
      · exact .inl (by rwa [AList.lookup_erase_ne hd] at h)

/-- Over a run, every stored entry is one that an earlier request stored or an `add` of
the run stored, under its own id. -/
theorem runCalls_lookup_eq_some (calls : List Call) {store : DataStore} (done : List Call)
    (hinv : ∀ id e, store.lookup id = some e → e.id = id ∧ ∃ call ∈ done, call.Adds id e)
    {id : String} {e : SecretData} (h : (runCalls calls store).lookup id = some e) :
    e.id = id ∧ ∃ call ∈ done ++ calls, call.Adds id e := by
  induction calls generalizing store done with
  | nil => simpa using hinv id e h
  | cons call calls ih =>
    have hstep : ∀ id e, (call.apply store).2.lookup id = some e →
        e.id = id ∧ ∃ c ∈ done ++ [call], c.Adds id e := fun id e he => by
      rcases apply_lookup_eq_some call store he with he | ⟨hadd, hid⟩
      · obtain ⟨hid, c, hc, hadd⟩ := hinv id e he
        exact ⟨hid, c, List.mem_append_left _ hc, hadd⟩
      · exact ⟨hid, call, List.mem_append_right _ (List.mem_singleton_self _), hadd⟩
    simpa using ih (done ++ [call]) hstep h

/-- Confidentiality of the store, for every store the handlers can reach and every
request, whose declared level is `stringToAccessLevel` of its `accessLevel`: every stored
entry was stored by an `add` request declaring the entry's level; a `get` answers with
an entry's data only at a level at least the entry's; a list answers exactly the ids of
the entries whose level is at most its own, each once, with their number; and every
other answer is the same on two stores that differ only in their data strings. -/
theorem secretDataManager_confidentiality :
    (∀ (calls : List Call) (id : String) (e : SecretData), (runCalls calls ∅).lookup id = some e →
      e.id = id ∧ ∃ call ∈ calls, call.Adds id e) ∧
    (∀ (params : Json) (language : String) (store : DataStore) (dataId userData : String)
        (level : AccessLevel) (j : Json), manageFields params = .ok ("get", dataId, level, userData) →
      (handleManageSecretData params language store).1 = .ok j →
      ∃ e, store.lookup dataId = some e ∧ e.minAccessLevel.toInt ≤ level.toInt ∧
        j = success "Data retrieved successfully" [("data", .str e.data)]) ∧
    (∀ (params : Json) (language : String) (store : DataStore) (levelStr : String),
      params.get? "accessLevel" = some (.str levelStr) →
      ∃ ids : List String, (handleListSecretData params language store).1 =
          .ok (success "Data list retrieved successfully"
            [("data", .arr (ids.map .str)), ("count", .int ids.length)]) ∧
        ids.Nodup ∧ ∀ id, id ∈ ids ↔
          ∃ e, store.lookup id = some e ∧ e.minAccessLevel.toInt ≤ (stringToAccessLevel levelStr).toInt) ∧
    (∀ (call : Call) (s₁ s₂ : DataStore), shape s₁ = shape s₂ →
      call.isGet = false ∨ (call.apply s₁).1.isOk = false → (call.apply s₁).1 = (call.apply s₂).1) :=
  ⟨fun calls _ _ h => by simpa using runCalls_lookup_eq_some calls [] (by simp) h,
    fun _ _ _ _ _ _ _ hf h => handleManageSecretData_get_ok hf h,
    fun _ language store levelStr h => ⟨_, handleListSecretData_eq language store h,
      nodup_accessibleIds _ store, mem_accessibleIds _ store⟩,
    fun call _ _ h hcall => apply_result_of_shape call h hcall⟩

/-! ## The language of an error -/

/-- The server's catalog holds `ru-RU`, `fr-FR` and `es-ES` texts for the codes its
handlers throw, yet every error it answers, other than `MethodNotFound`, carries the
`en-US` text for its code, whatever the request's language.  `processRequest` declares
`language` inside its `try` block, so both `catch` clauses pass `"en-US"`; the
`InternalError` clause also drops the `what()` text it wraps. -/
theorem secretData_errors_in_en_US (now : Int) (request : Json) (store : DataStore) {error : Json}
    (h : (processRequest (registerMethods now .init) request store).1.get? "error" = some error) :
    ∃ code message data, error = errorObject code message data ∧
      (code ≠ -32601 → message = (registerMethods now .init).getErrorMessage code "en-US") := by
  obtain ⟨code, language, data, rfl, hlang⟩ := processRequest_error_member _ request store h
  exact ⟨code, _, data, rfl, fun hc => by rw [hlang hc]⟩

/-- A `get` of an id the empty store does not hold, asked in `ru-RU`: the answer's text
for `DATA_NOT_FOUND` is the `en-US` one, although the catalog holds the `ru-RU` one. -/
theorem secretData_errors_in_en_US_get_ru :
    let request := Json.obj [("jsonrpc", .str "2.0"), ("method", .str "manageSecretData"),
      ("params", .obj [("action", .str "get"), ("dataID", .str "d"), ("accessLevel", .str "user"),
        ("language", .str "ru-RU")]), ("id", .int 1)]
    (registerMethods 0 .init).getErrorMessage DATA_NOT_FOUND "ru-RU" = "Данные не найдены" ∧
      (processRequest (registerMethods 0 .init) request ∅).1.get? "error" =
        some (errorObject DATA_NOT_FOUND "Data not found" .null) ∧
      ∃ code message data, errorObject DATA_NOT_FOUND "Data not found" .null = errorObject code message data ∧
        (code ≠ -32601 → message = (registerMethods 0 .init).getErrorMessage code "en-US") := by
  intro request
  exact ⟨rfl, rfl, secretData_errors_in_en_US 0 request ∅ rfl⟩

end ArchitectureCourse.SecretDataManager
