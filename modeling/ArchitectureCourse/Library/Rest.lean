import ArchitectureCourse.Json
import ArchitectureCourse.Library.Database
import ArchitectureCourse.Support.Decimal
import Mathlib.Data.String.Basic

/-!
# The REST routes of the library server

`main` of the REST server fills the global `Database` with three authors and six
books, then serves one handler per route.  A handler reads the path's id with
`std::stoi`, parses the body with `json::parse` and reads its fields with `j.at`,
makes its calls on the database, and answers with a status and a JSON body;
`sendError` builds the error answers.

The routes do not check alike.  `POST /books` refuses an empty title or genre and a
negative year, and `POST /authors` an empty name, but the two `PUT` routes store what
they are given.  `DELETE /authors/{id}` answers every refusal with the text that the
author has books, also when there is no such author.  A `std::stoi` that throws (a
path id past `INT_MAX`, a `page` or `limit` that is not a number) leaves the handler,
and the HTTP library answers for it.

`json::parse` is a parameter, as in the JSON-RPC session model, and so is the
conversion of a parsed floating-point number to `int`, which depends on how the
library rounded its decimal text to a `double`.  The root, `/health` and `OPTIONS`
routes touch no data and are not modelled.
-/

namespace ArchitectureCourse.Library

/-! ## `std::stoi` -/

/-- `isspace` in the C locale. -/
def isSpace (c : Char) : Bool :=
  c = ' ' || c = '\t' || c = '\n' || c = '\x0B' || c = '\x0C' || c = '\r'

/-- The sign `strtol` reads: `-`, `+` or none. -/
def readSign : List Char → Bool × List Char
  | '-' :: rest => (true, rest)
  | '+' :: rest => (false, rest)
  | cs => (false, cs)

/-- `std::stoi`: leading white space, a sign, then the decimal digits up to the first
other character; nothing where it throws, `invalid_argument` when no digit follows
and `out_of_range` outside `int`. -/
def stoi (s : String) : Option Int :=
  let (negative, rest) := readSign (s.toList.dropWhile isSpace)
  let digits := rest.takeWhile Char.isDigit
  let value : Int := if negative then -(digitsValue 0 digits : Int) else digitsValue 0 digits
  if digits = [] ∨ value < -2 ^ 31 ∨ 2 ^ 31 ≤ value then none else some value

theorem isSpace_eq_false {c : Char} (h : c.isDigit = true) : isSpace c = false := by
  simp only [isSpace, Bool.or_eq_false_iff, decide_eq_false_iff_not]
  refine ⟨⟨⟨⟨⟨?_, ?_⟩, ?_⟩, ?_⟩, ?_⟩, ?_⟩ <;> rintro rfl <;> simp at h

theorem readSign_digit {c : Char} (h : c.isDigit = true) (rest : List Char) :
    readSign (c :: rest) = (false, c :: rest) := by
  have hminus : c ≠ '-' := by rintro rfl; simp at h
  have hplus : c ≠ '+' := by rintro rfl; simp at h
  simp [readSign, hminus, hplus]

/-- `std::stoi` reads back the decimal text of every `int`. -/
theorem stoi_toString (n : Int) (hlo : -2 ^ 31 ≤ n) (hhi : n < 2 ^ 31) :
    stoi (toString n) = some n := by
  cases n with
  | ofNat m =>
    obtain ⟨hne, hd, hv⟩ := toDigits_ten m
    obtain ⟨c, rest, hcons⟩ := List.exists_cons_of_ne_nil hne
    have hc := hd c (hcons ▸ List.mem_cons_self _ _)
    have hsign : readSign ((toString (Int.ofNat m)).toList.dropWhile isSpace) =
        (false, Nat.toDigits 10 m) := by
      change readSign ((Nat.toDigits 10 m).dropWhile isSpace) = _
      rw [hcons, List.dropWhile_cons_of_neg (by simp [isSpace_eq_false hc]), readSign_digit hc]
    simp only [stoi, hsign, List.takeWhile_eq_self_iff.mpr hd, hv]
    rw [Int.ofNat_eq_coe] at hhi ⊢
    simp [hne]
    omega
  | negSucc m =>
    obtain ⟨hne, hd, hv⟩ := toDigits_ten (m + 1)
    have hsign : readSign ((toString (Int.negSucc m)).toList.dropWhile isSpace) =
        (true, Nat.toDigits 10 (m + 1)) := by
      change readSign (('-' :: Nat.toDigits 10 (m + 1)).dropWhile isSpace) = _
      rw [List.dropWhile_cons_of_neg (by decide)]
      rfl
    simp only [stoi, hsign, List.takeWhile_eq_self_iff.mpr hd, hv]
    rw [Int.negSucc_eq] at hlo ⊢
    simp [hne]
    omega

example : stoi " \t-42abc" = some (-42) := by decide

example : stoi "2147483648" = none := by decide

/-! ## Records and answers as JSON -/

/-- `Author::toJson`. -/
def Author.toJson (author : Author) : Json :=
  .obj [("id", .int author.id), ("firstName", .str author.firstName),
    ("lastName", .str author.lastName), ("dob", .str author.dob)]

/-- `Author::toJsonWithBookCount`: `toJson` with the member `booksWritten` added. -/
def Author.toJsonWithBookCount (author : Author) (bookCount : Int) : Json :=
  match author.toJson with
  | .obj members => .obj (members ++ [("booksWritten", .int bookCount)])
  | j => j

/-- `Book::toJson`. -/
def Book.toJson (book : Book) : Json :=
  .obj [("id", .int book.id), ("title", .str book.title), ("genre", .str book.genre),
    ("year", .int book.year), ("authorId", .int book.authorId)]

/-- What a handler sets on the `httplib::Response`: the status, 200 unless the handler
sets another, and the JSON body if it sets one. -/
structure Response where
  status : Nat
  body : Option Json

/-- `sendError`. -/
def sendError (status : Nat) (message : String) : Response :=
  ⟨status, some (.obj [("error", .bool true), ("message", .str message)])⟩

/-- `std::string value = j.at(key)`; nothing where the library throws a
`json::exception`: `j` is not an object, lacks the member, or the member is not a
string. -/
def atString (j : Json) (key : String) : Option String :=
  match j.get? key with
  | some (.str s) => some s
  | _ => none

section Server

variable (parse : String → Option Json) (castDouble : Int → Int → Int)

/-- `int value = j.at(key)`: an integer is cut to 32 bits, a boolean gives 0 or 1, and
a floating-point number, mantissa and decimal exponent, converts by `castDouble`;
anything else throws. -/
def atInt (j : Json) (key : String) : Option Int :=
  match j.get? key with
  | some (.int n) => some (wrapInt32 n)
  | some (.bool b) => some (if b then 1 else 0)
  | some (.float mantissa exponent) => some (castDouble mantissa exponent)
  | _ => none

/-- The fields `POST /books` and `PUT /books/{id}` read, in the order they read them. -/
def bookFields (j : Json) : Option (String × String × Int × Int) := do
  let title ← atString j "title"
  let genre ← atString j "genre"
  let year ← atInt castDouble j "year"
  let authorId ← atInt castDouble j "authorId"
  return (title, genre, year, authorId)

/-- The fields `POST /authors` and `PUT /authors/{id}` read. -/
def authorFields (j : Json) : Option (String × String × String) := do
  let firstName ← atString j "firstName"
  let lastName ← atString j "lastName"
  let dob ← atString j "dob"
  return (firstName, lastName, dob)

/-! ## Routes -/

/-- A query parameter read with `std::stoi`, or its default when it is absent. -/
def queryInt (value : String) (default : Int) : Option Int :=
  if value.isEmpty then some default else stoi value

/-- `GET /books`: `page` and `limit` default to 1 and 10; a `page` below 1 becomes 1,
a `limit` below 1 becomes 10 and one above 100 becomes 100.  `total` counts the books
of the page. -/
def handleGetBooks (genre pageStr limitStr : String) (db : Database) : Option Response := do
  let page ← queryInt pageStr 1
  let limit ← queryInt limitStr 10
  let page := if page < 1 then 1 else page
  let limit := if limit < 1 then 10 else limit
  let limit := if limit > 100 then 100 else limit
  let books := db.getFilteredAndPaginatedBooks genre page limit
  return ⟨200, some (.obj [("page", .int page), ("limit", .int limit),
    ("total", .int books.length), ("books", .arr (books.map Book.toJson))])⟩

/-- `GET /books/{id}`: the id 0 of the `Book()` that `getBook` returns for a missing
id means not found. -/
def handleGetBook (idStr : String) (db : Database) : Option Response :=
  (stoi idStr).map fun id =>
    let book := db.getBook id
    if book.id = 0 then sendError 404 "Книга не найдена" else ⟨200, some book.toJson⟩

/-- `POST /books`. -/
def handlePostBook (body : String) (db : Database) : Response × Database :=
  match parse body with
  | none => (sendError 400 "Неверный формат JSON", db)
  | some j =>
    match bookFields castDouble j with
    | none => (sendError 400 "Отсутствуют обязательные поля", db)
    | some (title, genre, year, authorId) =>
      if title.isEmpty || genre.isEmpty || year < 0 then (sendError 400 "Неверные данные книги", db)
      else
        match db.addBook title genre year authorId with
        | .ok (book, db') => (⟨201, some book.toJson⟩, db')
        | .error _ => (sendError 404 "Автор не найден", db)

/-- The two `PUT` routes: the id, the body, its fields, one update, and the record read
back after it. -/
def putRoute {F : Type} (fields : Json → Option F) (update : Database → Int → F → Bool × Database)
    (message : String) (read : Database → Int → Json) (idStr body : String) (db : Database) :
    Option Response × Database :=
  match stoi idStr with
  | none => (none, db)
  | some id =>
    match parse body with
    | none => (some (sendError 400 "Неверный формат JSON"), db)
    | some j =>
      match fields j with
      | none => (some (sendError 400 "Отсутствуют обязательные поля"), db)
      | some f =>
        match update db id f with
        | (false, db') => (some (sendError 404 message), db')
        | (true, db') => (some ⟨200, some (read db' id)⟩, db')

/-- `PUT /books/{id}`. -/
def handlePutBook : String → String → Database → Option Response × Database :=
  putRoute parse (bookFields castDouble)
    (fun db id (title, genre, year, authorId) => db.updateBook id title genre year authorId)
    "Книга или автор не найдены" (fun db id => (db.getBook id).toJson)

/-- The two `DELETE` routes: the id, one call, and 204 with no body or an error. -/
def deleteRoute (delete : Database → Int → Bool × Database) (status : Nat) (message : String)
    (idStr : String) (db : Database) : Option Response × Database :=
  match stoi idStr with
  | none => (none, db)
  | some id =>
    match delete db id with
    | (false, db') => (some (sendError status message), db')
    | (true, db') => (some ⟨204, none⟩, db')

/-- `DELETE /books/{id}`. -/
def handleDeleteBook : String → Database → Option Response × Database :=
  deleteRoute Database.deleteBook 404 "Книга не найдена"

/-- `GET /authors`, with each author's book count when `includeBooks` is `"true"`. -/
def handleGetAuthors (includeBooks : String) (db : Database) : Response :=
  ⟨200, some (.arr (db.getAllAuthors.map fun author =>
    if includeBooks = "true" then author.toJsonWithBookCount (db.getBookCountForAuthor author.id)
    else author.toJson))⟩

/-- `GET /authors/{id}`. -/
def handleGetAuthor (idStr includeBooks : String) (db : Database) : Option Response :=
  (stoi idStr).map fun id =>
    let author := db.getAuthor id
    if author.id = 0 then sendError 404 "Автор не найден"
    else if includeBooks = "true" then
      ⟨200, some (author.toJsonWithBookCount (db.getBookCountForAuthor author.id))⟩
    else ⟨200, some author.toJson⟩

/-- `POST /authors`. -/
def handlePostAuthor (body : String) (db : Database) : Response × Database :=
  match parse body with
  | none => (sendError 400 "Неверный формат JSON", db)
  | some j =>
    match authorFields j with
    | none => (sendError 400 "Отсутствуют обязательные поля", db)
    | some (firstName, lastName, dob) =>
      if firstName.isEmpty || lastName.isEmpty then (sendError 400 "Имя и фамилия обязательны", db)
      else
        let (author, db') := db.addAuthor firstName lastName dob
        (⟨201, some author.toJson⟩, db')

/-- `PUT /authors/{id}`. -/
def handlePutAuthor : String → String → Database → Option Response × Database :=
  putRoute parse authorFields
    (fun db id (firstName, lastName, dob) => db.updateAuthor id firstName lastName dob)
    "Автор не найден" (fun db id => (db.getAuthor id).toJson)

/-- `DELETE /authors/{id}`: every refusal gets the text that the author has books. -/
def handleDeleteAuthor : String → Database → Option Response × Database :=
  deleteRoute Database.deleteAuthor 400 "Нельзя удалить автора, у которого есть книги"

/-- A request for one of the data routes: the id as the route's `(\d+)` captured it,
the query parameters as `get_param_value` gives them (the empty string when absent),
and the body. -/
inductive Request where
  | getBooks (genre page limit : String)
  | getBook (id : String)
  | postBook (body : String)
  | putBook (id body : String)
  | deleteBook (id : String)
  | getAuthors (includeBooks : String)
  | getAuthor (id includeBooks : String)
  | postAuthor (body : String)
  | putAuthor (id body : String)
  | deleteAuthor (id : String)

/-- The two routes that store without checking. -/
def Request.isPut : Request → Bool
  | putBook _ _ | putAuthor _ _ => true
  | _ => false

/-- The answer to a request, none where an exception leaves the handler, and the
database after it. -/
def handle : Request → Database → Option Response × Database
  | .getBooks genre page limit, db => (handleGetBooks genre page limit db, db)
  | .getBook id, db => (handleGetBook id db, db)
  | .postBook body, db => Prod.map some id (handlePostBook parse castDouble body db)
  | .putBook id body, db => handlePutBook parse castDouble id body db
  | .deleteBook id, db => handleDeleteBook id db
  | .getAuthors includeBooks, db => (some (handleGetAuthors includeBooks db), db)
  | .getAuthor id includeBooks, db => (handleGetAuthor id includeBooks db, db)
  | .postAuthor body, db => Prod.map some id (handlePostAuthor parse body db)
  | .putAuthor id body, db => handlePutAuthor parse id body db
  | .deleteAuthor id, db => handleDeleteAuthor id db

/-- The database after requests served one at a time. -/
def runRequests (requests : List Request) (db : Database) : Database :=
  requests.foldl (fun db r => (handle parse castDouble r db).2) db

/-! ## What each route does -/

/-- What `POST /books` does: an error with the database unchanged, or an `addBook` of
checked fields that is answered with 201 and the new book. -/
theorem handlePostBook_spec (body : String) (db : Database) :
    (∃ status message, 400 ≤ status ∧
      handlePostBook parse castDouble body db = (sendError status message, db)) ∨
    ∃ j title genre year authorId book db', parse body = some j ∧
      bookFields castDouble j = some (title, genre, year, authorId) ∧
      title ≠ "" ∧ genre ≠ "" ∧ 0 ≤ year ∧ db.addBook title genre year authorId = .ok (book, db') ∧
      handlePostBook parse castDouble body db = (⟨201, some book.toJson⟩, db') := by
  unfold handlePostBook
  split
  · exact .inl ⟨_, _, le_rfl, rfl⟩
  next j hj =>
    split
    · exact .inl ⟨_, _, le_rfl, rfl⟩
    next title genre year authorId hf =>
      split
      · exact .inl ⟨_, _, le_rfl, rfl⟩
      next hvalid =>
        simp only [Bool.or_eq_true, decide_eq_true_eq, String.isEmpty_iff, not_or, not_lt] at hvalid
        split
        next book db' hadd =>
          exact .inr ⟨j, title, genre, year, authorId, book, db', hj, hf, hvalid.1.1, hvalid.1.2,
            hvalid.2, hadd, rfl⟩
        · exact .inl ⟨_, _, by decide, rfl⟩

/-- What `POST /authors` does: an error with the database unchanged, or an `addAuthor`
of checked names that is answered with 201 and the new author. -/
theorem handlePostAuthor_spec (body : String) (db : Database) :
    (∃ message, handlePostAuthor parse body db = (sendError 400 message, db)) ∨
    ∃ j firstName lastName dob, parse body = some j ∧
      authorFields j = some (firstName, lastName, dob) ∧ firstName ≠ "" ∧ lastName ≠ "" ∧
      handlePostAuthor parse body db =
        (⟨201, some (db.addAuthor firstName lastName dob).1.toJson⟩,
          (db.addAuthor firstName lastName dob).2) := by
  unfold handlePostAuthor
  split
  · exact .inl ⟨_, rfl⟩
  next j hj =>
    split
    · exact .inl ⟨_, rfl⟩
    next firstName lastName dob hf =>
      split
      · exact .inl ⟨_, rfl⟩
      next hvalid =>
        simp only [Bool.or_eq_true, String.isEmpty_iff, not_or] at hvalid
        exact .inr ⟨j, firstName, lastName, dob, hj, hf, hvalid.1, hvalid.2, rfl⟩

section Routes

variable {F : Type} (fields : Json → Option F) (update : Database → Int → F → Bool × Database)
  (message : String) (read : Database → Int → Json) (idStr body : String) (db : Database)

/-- What a `PUT` route does: throw, refuse the body with 400, or make its update and
answer 404 when the update is refused and 200 with the record read back when it is
made. -/
theorem putRoute_cases :
    putRoute parse fields update message read idStr body db = (none, db) ∨
    (∃ message', putRoute parse fields update message read idStr body db =
      (some (sendError 400 message'), db)) ∨
    ∃ id f db', (update db id f = (false, db') ∧
        putRoute parse fields update message read idStr body db = (some (sendError 404 message), db')) ∨
      (update db id f = (true, db') ∧
        putRoute parse fields update message read idStr body db = (some ⟨200, some (read db' id)⟩, db')) := by
  unfold putRoute
  split
  · exact .inl rfl
  next id _ =>
    split
    · exact .inr (.inl ⟨_, rfl⟩)
    split
    · exact .inr (.inl ⟨_, rfl⟩)
    next f _ =>
      split
      next db' hu => exact .inr (.inr ⟨id, f, db', .inl ⟨hu, rfl⟩⟩)
      next db' hu => exact .inr (.inr ⟨id, f, db', .inr ⟨hu, rfl⟩⟩)

/-- A `PUT` route whose update changes nothing when it is refused changes nothing when
it fails. -/
theorem putRoute_failed (hupdate : ∀ id f db', update db id f = (false, db') → db' = db)
    (h : ∀ response, (putRoute parse fields update message read idStr body db).1 = some response →
      400 ≤ response.status) :
    (putRoute parse fields update message read idStr body db).2 = db := by
  rcases putRoute_cases parse fields update message read idStr body db with
    heq | ⟨_, heq⟩ | ⟨id, f, db', ⟨hu, heq⟩ | ⟨hu, heq⟩⟩ <;> rw [heq] at h ⊢
  · exact hupdate id f db' hu
  · exact absurd (h _ rfl) (by simp)

variable (delete : Database → Int → Bool × Database) (status : Nat)

/-- What a `DELETE` route does: throw, or make its call and answer with the error when
the call is refused and with 204 when it is made. -/
theorem deleteRoute_cases :
    deleteRoute delete status message idStr db = (none, db) ∨
    ∃ id db', (delete db id = (false, db') ∧
        deleteRoute delete status message idStr db = (some (sendError status message), db')) ∨
      (delete db id = (true, db') ∧ deleteRoute delete status message idStr db = (some ⟨204, none⟩, db')) := by
  unfold deleteRoute
  split
  · exact .inl rfl
  next id _ =>
    split
    next db' hd => exact .inr ⟨id, db', .inl ⟨hd, rfl⟩⟩
    next db' hd => exact .inr ⟨id, db', .inr ⟨hd, rfl⟩⟩

/-- A `DELETE` route whose call changes nothing when it is refused changes nothing when
it fails. -/
theorem deleteRoute_failed (hdelete : ∀ id db', delete db id = (false, db') → db' = db)
    (h : ∀ response, (deleteRoute delete status message idStr db).1 = some response →
      400 ≤ response.status) :
    (deleteRoute delete status message idStr db).2 = db := by
  rcases deleteRoute_cases message idStr db delete status with
    heq | ⟨id, db', ⟨hd, heq⟩ | ⟨hd, heq⟩⟩ <;> rw [heq] at h ⊢
  · exact hdelete id db' hd
  · exact absurd (h _ rfl) (by decide)

end Routes

/-- `PUT /books/{id}` stores the fields it reads as they come: it checks only that the
author and the book exist. -/
theorem handlePutBook_stores {idStr body : String} {id : Int} {j : Json} {title genre : String}
    {year authorId : Int} {db : Database} {book : Book} (hid : stoi idStr = some id)
    (hj : parse body = some j) (hf : bookFields castDouble j = some (title, genre, year, authorId))
    (ha : (db.authors.lookup authorId).isSome) (hb : db.books.lookup id = some book) :
    handle parse castDouble (.putBook idStr body) db =
      (some ⟨200, some (Book.toJson { book with title, genre, year, authorId })⟩,
        { db with books := db.books.insert id { book with title, genre, year, authorId } }) := by
  have hupdate : db.updateBook id title genre year authorId =
      (true, { db with books := db.books.insert id { book with title, genre, year, authorId } }) := by
    simp [Database.updateBook, Option.ne_none_iff_isSome.mpr ha, hb]
  simp [handle, handlePutBook, putRoute, hid, hj, hf, hupdate, Database.getBook]

/-! ## The server and its database -/

/-- A request that ends in an error status, or in an exception, leaves the database as
it was. -/
theorem handle_failed (r : Request) (db : Database)
    (h : ∀ response, (handle parse castDouble r db).1 = some response → 400 ≤ response.status) :
    (handle parse castDouble r db).2 = db := by
  cases r with
  | getBooks | getBook | getAuthors | getAuthor => rfl
  | postBook body =>
    rcases handlePostBook_spec parse castDouble body db with
      ⟨_, _, -, heq⟩ | ⟨_, _, _, _, _, _, _, -, -, -, -, -, -, heq⟩ <;>
      simp only [handle, heq, Prod.map, id] at h ⊢
    exact absurd (h _ rfl) (by simp)
  | putBook idStr body =>
    exact putRoute_failed parse _ _ _ _ idStr body db
      (fun _ ⟨_, _, _, _⟩ _ hu => Database.updateBook_eq_false hu) h
  | deleteBook idStr =>
    exact deleteRoute_failed _ idStr db _ _ (fun _ _ hd => Database.deleteBook_eq_false hd) h
  | postAuthor body =>
    rcases handlePostAuthor_spec parse body db with
      ⟨_, heq⟩ | ⟨_, _, _, _, -, -, -, -, heq⟩ <;> simp only [handle, heq, Prod.map, id] at h ⊢
    exact absurd (h _ rfl) (by simp)
  | putAuthor idStr body =>
    exact putRoute_failed parse _ _ _ _ idStr body db
      (fun _ ⟨_, _, _⟩ _ hu => Database.updateAuthor_eq_false hu) h
  | deleteAuthor idStr =>
    exact deleteRoute_failed _ idStr db _ _ (fun _ _ hd => Database.deleteAuthor_eq_false hd) h

/-- `DELETE /books/1` on the empty database answers 404. -/
theorem handle_failed_deleteBook :
    (handle (fun _ => none) (fun m _ => m) (.deleteBook "1") Database.empty).2 = Database.empty :=
  handle_failed _ _ _ _ fun response h => by
    have hanswer : (handle (fun _ => none) (fun m _ => m) (.deleteBook "1") Database.empty).1 =
        some (sendError 404 "Книга не найдена") := rfl
    rw [hanswer] at h
    cases h
    decide

/-- The book `POST /books` creates is what `GET /books/{id}` serves next, while the
next id is a positive `int`. -/
theorem getBook_after_postBook {body : String} {db db' : Database} {response : Response}
    (h : handle parse castDouble (.postBook body) db = (some response, db'))
    (hcreated : response.status = 201) (hpos : 0 < db.nextBookId) (hmax : db.nextBookId < 2 ^ 31) :
    handle parse castDouble (.getBook (toString db.nextBookId)) db' = (some ⟨200, response.body⟩, db') := by
  rcases handlePostBook_spec parse castDouble body db with
    ⟨_, _, hs, heq⟩ | ⟨_, _, _, _, _, _, _, -, -, -, -, -, hadd, heq⟩ <;>
    simp only [handle, heq, Prod.map, id, Prod.mk.injEq, Option.some.injEq] at h
  · obtain ⟨rfl, -⟩ := h
    simp only [sendError] at hcreated
    omega
  · obtain ⟨rfl, rfl⟩ := h
    obtain ⟨rfl, rfl⟩ := Database.addBook_eq_ok hadd
    simp [handle, handleGetBook, stoi_toString _ (by omega) hmax, Database.getBook, hpos.ne']

/-- The first book posted to a database with one author. -/
theorem getBook_after_postBook_first :
    let db := (Database.empty.addAuthor "Лев" "Толстой" "1828-09-09").2
    let parse : String → Option Json := fun _ => some (.obj [("title", .str "Война и мир"),
      ("genre", .str "Роман"), ("year", .int 1869), ("authorId", .int 1)])
    ∃ response db', handle parse (fun m _ => m) (.postBook "") db = (some response, db') ∧
      response.status = 201 ∧
      handle parse (fun m _ => m) (.getBook (toString db.nextBookId)) db' = (some ⟨200, response.body⟩, db') := by
  intro db parse
  exact ⟨_, _, rfl, rfl, @getBook_after_postBook parse (fun m _ => m) "" db _ _ rfl rfl (by decide) (by decide)⟩

/-! ## What the `POST` routes check -/

/-- What `POST /books` checks of a book. -/
def Book.Checked (book : Book) : Prop :=
  book.title ≠ "" ∧ book.genre ≠ "" ∧ 0 ≤ book.year

/-- What `POST /authors` checks of an author. -/
def Author.Checked (author : Author) : Prop :=
  author.firstName ≠ "" ∧ author.lastName ≠ ""

/-- Every stored record passes the check of its `POST` route. -/
structure Database.Validated (db : Database) : Prop where
  books : ∀ id book, db.books.lookup id = some book → book.Checked
  authors : ∀ id author, db.authors.lookup id = some author → author.Checked

/-- A call with what the `POST` routes let through, or one that only reads or deletes. -/
def DatabaseOp.checked : DatabaseOp → Bool
  | .addAuthor firstName lastName _ => decide (firstName ≠ "" ∧ lastName ≠ "")
  | .addBook title genre year _ => decide (title ≠ "" ∧ genre ≠ "" ∧ 0 ≤ year)
  | .updateAuthor .. | .updateBook .. => false
  | _ => true

theorem Database.validated_empty : Database.empty.Validated :=
  ⟨by simp [Database.empty], by simp [Database.empty]⟩

theorem Database.Validated.deleteAuthor {db : Database} (h : db.Validated) (id : Int) :
    (db.deleteAuthor id).2.Validated := by
  unfold Database.deleteAuthor
  split
  · exact h
  · exact ⟨h.books, forall_lookup_erase id h.authors⟩

/-- A checked call keeps every stored record checked. -/
theorem Database.Validated.apply {db : Database} (h : db.Validated) (op : DatabaseOp)
    (hop : op.checked = true) : (op.apply db).Validated := by
  cases op with
  | addAuthor firstName lastName dob =>
    exact ⟨h.books, forall_lookup_insert (of_decide_eq_true hop : firstName ≠ "" ∧ lastName ≠ "") h.authors⟩
  | addBook title genre year authorId =>
    simp only [DatabaseOp.apply]
    split
    next book db' hadd =>
      obtain ⟨rfl, rfl⟩ := Database.addBook_eq_ok hadd
      exact ⟨forall_lookup_insert (of_decide_eq_true hop : title ≠ "" ∧ genre ≠ "" ∧ 0 ≤ year) h.books,
        h.authors⟩
    · exact h
  | updateAuthor | updateBook => cases hop
  | deleteAuthor id => exact h.deleteAuthor id
  | deleteBook id => exact ⟨forall_lookup_erase id h.books, h.authors⟩
  | getAuthor _ | getAllAuthors | getBookCountForAuthor _ | getBook _ | getAllBooks
  | getBooksByGenre _ | getPaginatedBooks _ _ | getFilteredAndPaginatedBooks _ _ _ => exact h

theorem Database.Validated.runOps {db : Database} (h : db.Validated) (ops : List DatabaseOp)
    (hops : ∀ op ∈ ops, op.checked = true) : (runOps ops db).Validated := by
  induction ops generalizing db with
  | nil => exact h
  | cons op ops ih =>
    exact ih (h.apply op (hops op (List.mem_cons_self _ _))) fun o ho => hops o (List.mem_cons_of_mem _ ho)

/-! ## The served database -/

/-- The calls `main` makes before it serves: three authors, then six books naming them
by the ids `addAuthor` returned, 1, 2 and 3. -/
def sampleCalls : List DatabaseOp :=
  [.addAuthor "Лев" "Толстой" "1828-09-09", .addAuthor "Фёдор" "Достоевский" "1821-11-11",
    .addAuthor "Айзек" "Азимов" "1920-01-02",
    .addBook "Война и мир" "Роман" 1869 1, .addBook "Анна Каренина" "Роман" 1877 1,
    .addBook "Преступление и наказание" "Роман" 1866 2, .addBook "Идиот" "Роман" 1869 2,
    .addBook "Я, робот" "Фантастика" 1950 3, .addBook "Основание" "Фантастика" 1951 3]

/-- The global `db` once `main` has added its sample data. -/
def sampleDatabase : Database :=
  runOps sampleCalls .empty

/-! ## A page past `INT_MAX` -/

/-- `GET /books?page=2147483647&limit=2` starts its page at `(page - 1) * limit`, past
every book, yet answers the first two books of the genre: the product overflows `int`
and wraps to `-4`, and the start is clamped to 0. -/
theorem handleGetBooks_page_overflow (genre : String) (db : Database)
    (hsize : ((values db.books).filter fun b => genre.isEmpty || b.genre == genre).length < 2 ^ 31) :
    let matching := (values db.books).filter fun b => genre.isEmpty || b.genre == genre
    matching.length ≤ (2147483647 - 1) * 2 ∧
      handleGetBooks genre "2147483647" "2" db =
        some ⟨200, some (.obj [("page", .int 2147483647), ("limit", .int 2),
          ("total", .int (matching.take 2).length),
          ("books", .arr ((matching.take 2).map Book.toJson))])⟩ := by
  have hpage : queryInt "2147483647" 1 = some 2147483647 := by decide
  have hlimit : queryInt "2" 10 = some 2 := by decide
  refine ⟨by omega, ?_⟩
  simp [handleGetBooks, hpage, hlimit, Database.getFilteredAndPaginatedBooks,
    Database.pageSlice_intMax_two hsize]

/-- On the served database with no genre: all six books match, and page `INT_MAX`
answers two of them. -/
theorem handleGetBooks_page_overflow_served :
    let matching := (values sampleDatabase.books).filter fun b => "".isEmpty || b.genre == ""
    matching.length = 6 ∧ matching.length < 2 ^ 31 ∧ matching.length ≤ (2147483647 - 1) * 2 ∧
      handleGetBooks "" "2147483647" "2" sampleDatabase =
        some ⟨200, some (.obj [("page", .int 2147483647), ("limit", .int 2),
          ("total", .int (matching.take 2).length),
          ("books", .arr ((matching.take 2).map Book.toJson))])⟩ := by
  have hsix : ((values sampleDatabase.books).filter fun b => "".isEmpty || b.genre == "").length = 6 := by
    rw [show (fun b : Book => "".isEmpty || b.genre == "") = fun _ => true from rfl, List.filter_true]
    simp only [values, List.length_map, List.length_mergeSort]
    rfl
  exact ⟨hsix, by omega, handleGetBooks_page_overflow "" sampleDatabase (by omega)⟩

end Server

end ArchitectureCourse.Library
