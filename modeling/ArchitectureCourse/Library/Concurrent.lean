import ArchitectureCourse.Library.Rest
import ArchitectureCourse.Support.Workers

/-!
# Concurrent REST requests

httplib serves each request on a thread of its pool, and every thread shares the global
`db`.  Each member function of `Database` takes `mtx` for its whole body, so the
database changes one call at a time; the routes themselves hold nothing.  Most routes
make one call.  The two `PUT` routes make two, the update and then a read of the record
they answer with; `GET /authors/{id}?includeBooks=true` makes two, and
`GET /authors?includeBooks=true` makes one more per author it listed.

Each route is here a `Worker` whose calls are the route's `db.` calls in the route's
order, with the rest of the route (`std::stoi`, parsing, the checks, the answer) between
them, where it touches nothing shared.  Run alone, every route answers as the server
that serves one request at a time (`handle`).  Every call is a call of the `Database`
API, so over every interleaving of any requests the database is the served database
after a sequence of API calls, and every stored book keeps its author.  A `PUT` can
answer with a record it did not write: a `DELETE /books/{id}` between its two calls
makes it answer `200` with `Book()`, the book with id 0.
-/

namespace ArchitectureCourse.Library

section Server

variable (parse : String → Option Json) (castDouble : Int → Int → Int)

/-! ## Routes as threads -/

/-- `GET /books`: `std::stoi` on `page` and `limit`, the clamps, then one call. -/
def getBooksWorker (genre pageStr limitStr : String) : Worker Database (Option Response) :=
  match queryInt pageStr 1, queryInt limitStr 10 with
  | some page, some limit =>
    let page := if page < 1 then 1 else page
    let limit := if limit < 1 then 10 else limit
    let limit := if limit > 100 then 100 else limit
    .single fun db =>
      let books := db.getFilteredAndPaginatedBooks genre page limit
      (some ⟨200, some (.obj [("page", .int page), ("limit", .int limit),
        ("total", .int books.length), ("books", .arr (books.map Book.toJson))])⟩, db)
  | _, _ => .done none

/-- `GET /books/{id}`. -/
def getBookWorker (idStr : String) : Worker Database (Option Response) :=
  match stoi idStr with
  | none => .done none
  | some id =>
    .single fun db =>
      let book := db.getBook id
      (some (if book.id = 0 then sendError 404 "Книга не найдена" else ⟨200, some book.toJson⟩), db)

/-- `POST /books`: the body is parsed and checked before the one call. -/
def postBookWorker (body : String) : Worker Database (Option Response) :=
  match parse body with
  | none => .done (some (sendError 400 "Неверный формат JSON"))
  | some j =>
    match bookFields castDouble j with
    | none => .done (some (sendError 400 "Отсутствуют обязательные поля"))
    | some (title, genre, year, authorId) =>
      if title.isEmpty || genre.isEmpty || year < 0 then .done (some (sendError 400 "Неверные данные книги"))
      else
        .single fun db =>
          match db.addBook title genre year authorId with
          | .ok (book, db') => (some ⟨201, some book.toJson⟩, db')
          | .error _ => (some (sendError 404 "Автор не найден"), db)

/-- `POST /authors`. -/
def postAuthorWorker (body : String) : Worker Database (Option Response) :=
  match parse body with
  | none => .done (some (sendError 400 "Неверный формат JSON"))
  | some j =>
    match authorFields j with
    | none => .done (some (sendError 400 "Отсутствуют обязательные поля"))
    | some (firstName, lastName, dob) =>
      if firstName.isEmpty || lastName.isEmpty then .done (some (sendError 400 "Имя и фамилия обязательны"))
      else .single fun db => (some ⟨201, some (db.addAuthor firstName lastName dob).1.toJson⟩,
        (db.addAuthor firstName lastName dob).2)

/-- The two `PUT` routes: the update, and after a successful one a second call that
reads the record back. -/
def putWorker {F : Type} (fields : Json → Option F) (update : Database → Int → F → Bool × Database)
    (message : String) (read : Database → Int → Json) (idStr body : String) :
    Worker Database (Option Response) :=
  match stoi idStr with
  | none => .done none
  | some id =>
    match parse body with
    | none => .done (some (sendError 400 "Неверный формат JSON"))
    | some j =>
      match fields j with
      | none => .done (some (sendError 400 "Отсутствуют обязательные поля"))
      | some f =>
        .call (fun db =>
            if (update db id f).1 then .single fun db => (some ⟨200, some (read db id)⟩, db)
            else .done (some (sendError 404 message)))
          fun db => (update db id f).2

/-- The two `DELETE` routes. -/
def deleteWorker (delete : Database → Int → Bool × Database) (status : Nat) (message : String)
    (idStr : String) : Worker Database (Option Response) :=
  match stoi idStr with
  | none => .done none
  | some id =>
    .single fun db =>
      match delete db id with
      | (false, db') => (some (sendError status message), db')
      | (true, db') => (some ⟨204, none⟩, db')

/-- The loop of `GET /authors` over the authors its first call listed: with
`includeBooks`, one `getBookCountForAuthor` call per author. -/
def authorsLoop (includeBooks : String) : List Author → List Json → Worker Database (Option Response)
  | [], result => .done (some ⟨200, some (.arr result)⟩)
  | author :: authors, result =>
    if includeBooks = "true" then
      .call (fun db => authorsLoop includeBooks authors
        (result ++ [author.toJsonWithBookCount (db.getBookCountForAuthor author.id)])) fun db => db
    else authorsLoop includeBooks authors (result ++ [author.toJson])

/-- `GET /authors`: `getAllAuthors`, then the loop. -/
def getAuthorsWorker (includeBooks : String) : Worker Database (Option Response) :=
  .call (fun db => authorsLoop includeBooks db.getAllAuthors []) fun db => db

/-- `GET /authors/{id}`: `getAuthor`, then with `includeBooks` a second call for the
count. -/
def getAuthorWorker (idStr includeBooks : String) : Worker Database (Option Response) :=
  match stoi idStr with
  | none => .done none
  | some id =>
    .call (fun db =>
        let author := db.getAuthor id
        if author.id = 0 then .done (some (sendError 404 "Автор не найден"))
        else if includeBooks = "true" then
          .single fun db => (some ⟨200, some (author.toJsonWithBookCount (db.getBookCountForAuthor author.id))⟩, db)
        else .done (some ⟨200, some author.toJson⟩))
      fun db => db

/-- The thread that serves a request. -/
def Request.worker : Request → Worker Database (Option Response)
  | .getBooks genre page limit => getBooksWorker genre page limit
  | .getBook id => getBookWorker id
  | .postBook body => postBookWorker parse castDouble body
  | .putBook id body =>
    putWorker parse (bookFields castDouble)
      (fun db id (title, genre, year, authorId) => db.updateBook id title genre year authorId)
      "Книга или автор не найдены" (fun db id => (db.getBook id).toJson) id body
  | .deleteBook id => deleteWorker Database.deleteBook 404 "Книга не найдена" id
  | .getAuthors includeBooks => getAuthorsWorker includeBooks
  | .getAuthor id includeBooks => getAuthorWorker id includeBooks
  | .postAuthor body => postAuthorWorker parse body
  | .putAuthor id body =>
    putWorker parse authorFields
      (fun db id (firstName, lastName, dob) => db.updateAuthor id firstName lastName dob)
      "Автор не найден" (fun db id => (db.getAuthor id).toJson) id body
  | .deleteAuthor id => deleteWorker Database.deleteAuthor 400 "Нельзя удалить автора, у которого есть книги" id

/-! ## Run alone, a route answers as served one at a time -/

section Routes

variable {F : Type} (fields : Json → Option F) (update : Database → Int → F → Bool × Database)
  (message : String) (read : Database → Int → Json) (idStr body : String) (db : Database)

theorem putWorker_runAlone :
    (putWorker parse fields update message read idStr body).runAlone db =
      putRoute parse fields update message read idStr body db := by
  unfold putWorker putRoute
  rcases stoi idStr with _ | id
  · rfl
  rcases parse body with _ | j
  · rfl
  dsimp only
  rcases fields j with _ | f
  · rfl
  rcases h : update db id f with ⟨_ | _, db'⟩ <;> simp [Worker.runAlone, h]

theorem deleteWorker_runAlone (delete : Database → Int → Bool × Database) (status : Nat) :
    (deleteWorker delete status message idStr).runAlone db = deleteRoute delete status message idStr db := by
  unfold deleteWorker deleteRoute
  rcases stoi idStr with _ | id <;> rfl

end Routes

theorem authorsLoop_runAlone (includeBooks : String) (authors : List Author) (result : List Json)
    (db : Database) :
    (authorsLoop includeBooks authors result).runAlone db =
      (some ⟨200, some (.arr (result ++ authors.map fun author =>
        if includeBooks = "true" then author.toJsonWithBookCount (db.getBookCountForAuthor author.id)
        else author.toJson))⟩, db) := by
  induction authors generalizing result with
  | nil => simp [authorsLoop, Worker.runAlone]
  | cons author authors ih =>
    by_cases hinc : includeBooks = "true"
    · rw [authorsLoop, if_pos hinc, Worker.runAlone, ih]
      simp [hinc]
    · rw [authorsLoop, if_neg hinc, ih]
      simp [hinc]

/-- Run with no other call in between, the thread of every request answers as the
server that serves one request at a time, and leaves the same database. -/
theorem Request.worker_runAlone (r : Request) (db : Database) :
    (r.worker parse castDouble).runAlone db = handle parse castDouble r db := by
  cases r with
  | getBooks genre page limit =>
    simp only [Request.worker, getBooksWorker, handle, handleGetBooks]
    cases queryInt page 1 <;> cases queryInt limit 10 <;> rfl
  | getBook idStr =>
    simp only [Request.worker, getBookWorker, handle, handleGetBook]
    cases stoi idStr <;> rfl
  | postBook body =>
    simp only [Request.worker, postBookWorker, handle, handlePostBook]
    rcases parse body with _ | j
    · rfl
    dsimp only
    rcases bookFields castDouble j with _ | ⟨title, genre, year, authorId⟩
    · rfl
    by_cases hbad : (title.isEmpty || genre.isEmpty || year < 0) = true
    · simp [hbad, Worker.runAlone]
    · simp only [if_neg hbad, Worker.runAlone_single]
      rcases db.addBook title genre year authorId with _ | ⟨book, db'⟩ <;> rfl
  | putBook idStr body => exact putWorker_runAlone parse _ _ _ _ idStr body db
  | deleteBook idStr => exact deleteWorker_runAlone _ idStr db _ _
  | getAuthors includeBooks =>
    simp [Request.worker, getAuthorsWorker, Worker.runAlone, authorsLoop_runAlone, handle,
      handleGetAuthors]
  | getAuthor idStr includeBooks =>
    simp only [Request.worker, getAuthorWorker, handle, handleGetAuthor]
    cases stoi idStr with
    | none => rfl
    | some id => by_cases h0 : (db.getAuthor id).id = 0 <;> by_cases hinc : includeBooks = "true" <;>
        simp [Worker.runAlone, h0, hinc]
  | postAuthor body =>
    simp only [Request.worker, postAuthorWorker, handle, handlePostAuthor]
    rcases parse body with _ | j
    · rfl
    dsimp only
    rcases authorFields j with _ | ⟨firstName, lastName, dob⟩
    · rfl
    by_cases hbad : (firstName.isEmpty || lastName.isEmpty) = true <;> simp [hbad, Worker.runAlone]
  | putAuthor idStr body => exact putWorker_runAlone parse _ _ _ _ idStr body db
  | deleteAuthor idStr => exact deleteWorker_runAlone _ idStr db _ _

/-! ## Every call is a call of the API -/

/-- The calls a request's thread may make: any call for a `PUT`, and for every other
route only calls that keep the checks of the `POST` routes. -/
abbrev Request.Calls (r : Request) : Type :=
  {op : DatabaseOp // r.isPut = false → op.checked = true}

/-- A read's call, which a request of every route may make. -/
def Request.read (r : Request) (op : DatabaseOp) (hop : op.checked = true) : r.Calls :=
  ⟨op, fun _ => hop⟩

theorem putWorker_performs {F : Type} (r : Request) (fields : Json → Option F)
    (update : Database → Int → F → Bool × Database) (message : String)
    (read : Database → Int → Json) (idStr body : String) (updateOp : Int → F → r.Calls)
    (hupdate : ∀ id f, (fun db => (update db id f).2) = (updateOp id f).1.apply)
    (readOp : Int → r.Calls) (hread : ∀ id, (readOp id).1.apply = fun db => db) :
    (putWorker parse fields update message read idStr body).Performs
      fun op : r.Calls => op.1.apply := by
  unfold putWorker
  rcases stoi idStr with _ | id
  · exact .done _
  rcases parse body with _ | j
  · exact .done _
  dsimp only
  rcases fields j with _ | f
  · exact .done _
  refine .call (updateOp id f) (hupdate id f) fun db => ?_
  split
  · exact .single (readOp id) (hread id).symm
  · exact .done _

theorem deleteWorker_performs (r : Request) (delete : Database → Int → Bool × Database)
    (status : Nat) (message idStr : String) (deleteOp : Int → r.Calls)
    (hdelete : ∀ id, (fun db => (delete db id).2) = (deleteOp id).1.apply) :
    (deleteWorker delete status message idStr).Performs fun op : r.Calls => op.1.apply := by
  unfold deleteWorker
  rcases stoi idStr with _ | id
  · exact .done _
  refine .single (deleteOp id) (.trans (funext fun db => ?_) (hdelete id))
  rcases delete db id with ⟨_ | _, _⟩ <;> rfl

theorem authorsLoop_performs (r : Request) (includeBooks : String) (authors : List Author)
    (result : List Json) :
    (authorsLoop includeBooks authors result).Performs fun op : r.Calls => op.1.apply := by
  induction authors generalizing result with
  | nil => exact .done _
  | cons author authors ih =>
    unfold authorsLoop
    split
    · exact .call (r.read (.getBookCountForAuthor author.id) rfl) rfl fun _ => ih _
    · exact ih _

/-- Whatever the earlier calls returned, every call the thread of a request makes is a
call of the `Database` API, and one that keeps the checks of the `POST` routes unless the
request is a `PUT`. -/
theorem Request.worker_performs (r : Request) :
    (r.worker parse castDouble).Performs fun op : r.Calls => op.1.apply := by
  cases r with
  | getBooks genre page limit =>
    dsimp only [Request.worker, getBooksWorker]
    split
    next p l _ _ =>
      exact .single ((Request.getBooks genre page limit).read (.getFilteredAndPaginatedBooks genre p l) rfl) rfl
    · exact .done _
  | getBook idStr =>
    dsimp only [Request.worker, getBookWorker]
    rcases stoi idStr with _ | id
    · exact .done _
    · exact .single ((Request.getBook idStr).read (.getBook id) rfl) rfl
  | postBook body =>
    dsimp only [Request.worker, postBookWorker]
    split
    · exact .done _
    split
    · exact .done _
    next title genre year authorId _ =>
    split
    · exact .done _
    next hok =>
    refine .single ⟨.addBook title genre year authorId, fun _ => ?_⟩ (funext fun db => ?_)
    · simp only [Bool.or_eq_true, decide_eq_true_eq, String.isEmpty_iff, not_or, not_lt] at hok
      simpa [DatabaseOp.checked, and_assoc] using hok
    · simp only [DatabaseOp.apply]
      split <;> simp_all
  | putBook idStr body =>
    exact putWorker_performs parse _ _ _ _ _ _ _
      (fun id f => ⟨.updateBook id f.1 f.2.1 f.2.2.1 f.2.2.2, fun h => by simp [Request.isPut] at h⟩)
      (fun _ _ => rfl) (fun id => ⟨.getBook id, fun h => by simp [Request.isPut] at h⟩) fun _ => rfl
  | deleteBook idStr =>
    exact deleteWorker_performs _ _ _ _ _ (fun id => Request.read _ (.deleteBook id) rfl) fun _ => rfl
  | getAuthors includeBooks =>
    exact .call ((Request.getAuthors includeBooks).read .getAllAuthors rfl) rfl fun _ =>
      authorsLoop_performs _ _ _ _
  | getAuthor idStr includeBooks =>
    dsimp only [Request.worker, getAuthorWorker]
    rcases stoi idStr with _ | id
    · exact .done _
    refine .call ((Request.getAuthor idStr includeBooks).read (.getAuthor id) rfl) rfl fun db => ?_
    dsimp only
    split
    · exact .done _
    split
    · exact .single ((Request.getAuthor idStr includeBooks).read (.getBookCountForAuthor (db.getAuthor id).id) rfl) rfl
    · exact .done _
  | postAuthor body =>
    dsimp only [Request.worker, postAuthorWorker]
    split
    · exact .done _
    split
    · exact .done _
    next firstName lastName dob _ =>
    split
    · exact .done _
    next hok =>
    refine .single ⟨.addAuthor firstName lastName dob, fun _ => ?_⟩ rfl
    simp only [Bool.or_eq_true, String.isEmpty_iff, not_or] at hok
    simpa [DatabaseOp.checked] using hok
  | putAuthor idStr body =>
    exact putWorker_performs parse _ _ _ _ _ _ _
      (fun id f => ⟨.updateAuthor id f.1 f.2.1 f.2.2, fun h => by simp [Request.isPut] at h⟩)
      (fun _ _ => rfl) (fun id => ⟨.getAuthor id, fun h => by simp [Request.isPut] at h⟩) fun _ => rfl
  | deleteAuthor idStr =>
    exact deleteWorker_performs _ _ _ _ _ (fun id => Request.read _ (.deleteAuthor id) rfl) fun _ => rfl

/-! ## Every interleaving of the requests -/

/-- Requests in flight on a database, each on a thread of its own. -/
def requestPool (requests : List Request) (db : Database) : Pool Database (Option Response) :=
  ⟨db, requests.map (Request.worker parse castDouble)⟩

theorem requestPool_performs (requests : List Request) (db : Database) :
    ∀ w ∈ (requestPool parse castDouble requests db).workers, w.Performs DatabaseOp.apply := by
  simp only [requestPool, List.mem_map]
  rintro _ ⟨r, -, rfl⟩
  exact (r.worker_performs parse castDouble).map Subtype.val fun _ => rfl

theorem requestPool_performs_checked (requests : List Request) (db : Database)
    (hput : ∀ r ∈ requests, r.isPut = false) :
    ∀ w ∈ (requestPool parse castDouble requests db).workers,
      w.Performs fun op : {op : DatabaseOp // op.checked = true} => op.1.apply := by
  simp only [requestPool, List.mem_map]
  rintro _ ⟨r, hr, rfl⟩
  exact (r.worker_performs parse castDouble).map (fun op : r.Calls => ⟨op.1, op.2 (hput r hr)⟩) fun _ => rfl

/-- Over every interleaving of the calls of any requests on the served database, the
database is the served database after a sequence of API calls, every book names a stored
author, and as long as no request is a `PUT` every record passes the check of its `POST`
route. -/
theorem served_concurrently {requests : List Request} {schedule : List Nat}
    {p : Pool Database (Option Response)}
    (h : (requestPool parse castDouble requests sampleDatabase).run schedule = some p) :
    (∃ calls, p.store = runOps calls sampleDatabase) ∧ p.store.RefIntegrity ∧
      ((∀ r ∈ requests, r.isPut = false) → p.store.Validated) := by
  obtain ⟨calls, hcalls, -⟩ := Pool.run_performs (requestPool_performs parse castDouble requests _) h
  refine ⟨⟨calls, hcalls⟩, hcalls ▸ (Database.refIntegrity_empty.runOps sampleCalls).runOps calls,
    fun hput => ?_⟩
  exact Pool.run_invariant Database.Validated (fun (op : {op : DatabaseOp // op.checked = true}) _ hdb => hdb.apply op.1 op.2)
    (requestPool_performs_checked parse castDouble requests _ hput) h
    (Database.validated_empty.runOps sampleCalls (by decide))

/-- Serving the requests one at a time, each to its end, is one of the interleavings: it
leaves the database that `runRequests` gives, and every request answers as `handle` does
on the database the requests before it left. -/
theorem serial_schedule (requests : List Request) (db : Database) :
    ∃ (schedule : List Nat) (p : Pool Database (Option Response)),
      (requestPool parse castDouble requests db).run schedule = some p ∧
      p.store = runRequests parse castDouble requests db ∧
      ∀ (i : Nat) (r : Request), requests[i]? = some r →
        p.workers[i]? = some (.done (handle parse castDouble r
          (runRequests parse castDouble (requests.take i) db)).1) :=
  Pool.run_serial _ _ (Request.worker_runAlone parse castDouble) requests db

/-- `GET /books/1` and `DELETE /books/1` on the served database, the `GET` first. -/
theorem served_concurrently_get_delete :
    ∃ p, (requestPool (fun _ => none) (fun m _ => m) [.deleteBook "1", .getBook "1"] sampleDatabase).run
        [1, 0] = some p ∧
      (∃ calls, p.store = runOps calls sampleDatabase) ∧ p.store.RefIntegrity ∧
        ((∀ r ∈ [Request.deleteBook "1", .getBook "1"], r.isPut = false) → p.store.Validated) :=
  ⟨_, rfl, @served_concurrently (fun _ => none) (fun m _ => m) [.deleteBook "1", .getBook "1"] [1, 0] _ rfl⟩

/-! ## A `PUT` that reads back another request's write -/

/-- A `DELETE /books/{id}` that takes the lock between the two calls of a successful
`PUT /books/{id}` leaves no book `id`, and the `PUT` answers `200` with `Book()`, an
answer it gives in neither order of the two requests served one at a time. -/
theorem putBook_deleted_between {idStr body : String} {id : Int} {j : Json}
    {title genre : String} {year authorId : Int} {db : Database} {book : Book}
    (hid : stoi idStr = some id) (hj : parse body = some j)
    (hf : bookFields castDouble j = some (title, genre, year, authorId))
    (ha : (db.authors.lookup authorId).isSome) (hb : db.books.lookup id = some book)
    (htitle : title ≠ "") :
    (requestPool parse castDouble [.putBook idStr body, .deleteBook idStr] db).run [0, 1, 0] =
        some ⟨{ db with books := (db.books.insert id { book with title, genre, year, authorId }).erase id },
          [.done (some ⟨200, some Book.default.toJson⟩), .done (some ⟨204, none⟩)]⟩ ∧
      (handle parse castDouble (.putBook idStr body) db).1 ≠ some ⟨200, some Book.default.toJson⟩ ∧
      (handle parse castDouble (.putBook idStr body)
        (handle parse castDouble (.deleteBook idStr) db).2).1 ≠ some ⟨200, some Book.default.toJson⟩ := by
  have hupdate : db.updateBook id title genre year authorId =
      (true, { db with books := db.books.insert id { book with title, genre, year, authorId } }) := by
    simp [Database.updateBook, Option.ne_none_iff_isSome.mpr ha, hb]
  refine ⟨?_, ?_, ?_⟩
  · simp [requestPool, Request.worker, putWorker, deleteWorker, Worker.single, Pool.run, Pool.step,
      hid, hj, hf, hupdate, Database.deleteBook, Database.getBook]
  · rw [handlePutBook_stores parse castDouble hid hj hf ha hb]
    simp [Book.toJson, Book.default, htitle]
  · simp [handle, handleDeleteBook, handlePutBook, deleteRoute, putRoute, hid, hj, hf,
      Database.deleteBook, Database.updateBook, Option.ne_none_iff_isSome.mpr ha, hb, sendError]

/-- The race on the served database: `PUT /books/1` with a new title and `DELETE /books/1`. -/
theorem putBook_deleted_between_served :
    let parse : String → Option Json := fun _ => some (.obj [("title", .str "Воскресение"),
      ("genre", .str "Роман"), ("year", .int 1899), ("authorId", .int 1)])
    (requestPool parse (fun m _ => m) [.putBook "1" "", .deleteBook "1"] sampleDatabase).run [0, 1, 0] =
        some ⟨{ sampleDatabase with
            books := (sampleDatabase.books.insert 1 ⟨1, "Воскресение", "Роман", 1899, 1⟩).erase 1 },
          [.done (some ⟨200, some Book.default.toJson⟩), .done (some ⟨204, none⟩)]⟩ ∧
      (handle parse (fun m _ => m) (.putBook "1" "") sampleDatabase).1 ≠
        some ⟨200, some Book.default.toJson⟩ ∧
      (handle parse (fun m _ => m) (.putBook "1" "")
        (handle parse (fun m _ => m) (.deleteBook "1") sampleDatabase).2).1 ≠
        some ⟨200, some Book.default.toJson⟩ :=
  @putBook_deleted_between _ (fun m _ => m) "1" "" 1 _ "Воскресение" "Роман" 1899 1 sampleDatabase
    ⟨1, "Война и мир", "Роман", 1869, 1⟩ (by decide) rfl rfl rfl rfl (by decide)

end Server

end ArchitectureCourse.Library
