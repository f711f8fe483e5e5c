import ArchitectureCourse.CppInt
import ArchitectureCourse.Support.Maps
import Mathlib.Data.List.AList

/-!
# The library database

The REST server keeps authors and books in two `std::map<int, ...>`, and numbers new
records with two counters.  A book refers to its author by id.  `addBook` and
`updateBook` check that the author exists, and `deleteAuthor` refuses an author who
still has a book; together they keep every book's author stored.

A `std::map` is iterated in key order: the model reads a map's values through
`values`, which sorts the entries by key.
-/

namespace ArchitectureCourse.Library

/-- `Author`. -/
structure Author where
  id : Int
  firstName : String
  lastName : String
  dob : String
  deriving DecidableEq, Repr

/-- `Book`. -/
structure Book where
  id : Int
  title : String
  genre : String
  year : Int
  authorId : Int
  deriving DecidableEq, Repr

/-- `Author()`, what `getAuthor` returns for an unknown id. -/
def Author.default : Author := ⟨0, "", "", ""⟩

/-- `Book()`. -/
def Book.default : Book := ⟨0, "", "", 0, 0⟩

/-- `Database`: the two maps and the two counters. -/
structure Database where
  authors : AList (fun _ : Int => Author)
  books : AList (fun _ : Int => Book)
  nextAuthorId : Int
  nextBookId : Int

/-- The values of a `std::map<int, V>` in the order of its keys. -/
def values {V : Type} (m : AList (fun _ : Int => V)) : List V :=
  (m.entries.mergeSort fun a b => decide (a.1 ≤ b.1)).map (·.2)

namespace Database

/-- The global `db` before `main` adds its sample data. -/
def empty : Database := ⟨∅, ∅, 1, 1⟩

/-- `addAuthor`. -/
def addAuthor (db : Database) (firstName lastName dob : String) : Author × Database :=
  let author : Author := ⟨db.nextAuthorId, firstName, lastName, dob⟩
  (author, { db with authors := db.authors.insert db.nextAuthorId author,
                     nextAuthorId := db.nextAuthorId + 1 })

/-- `getAuthor`. -/
def getAuthor (db : Database) (id : Int) : Author :=
  (db.authors.lookup id).getD .default

/-- `updateAuthor`. -/
def updateAuthor (db : Database) (id : Int) (firstName lastName dob : String) : Bool × Database :=
  match db.authors.lookup id with
  | some author =>
    let updated := { author with firstName := firstName, lastName := lastName, dob := dob }
    (true, { db with authors := db.authors.insert id updated })
  | none => (false, db)

/-- `deleteAuthor`: refused while a book names the author. -/
def deleteAuthor (db : Database) (id : Int) : Bool × Database :=
  if (values db.books).any (·.authorId == id) then (false, db)
  else ((db.authors.lookup id).isSome, { db with authors := db.authors.erase id })

/-- `getAllAuthors`. -/
def getAllAuthors (db : Database) : List Author :=
  values db.authors

/-- `getBookCountForAuthor`. -/
def getBookCountForAuthor (db : Database) (authorId : Int) : Nat :=
  ((values db.books).filter (·.authorId == authorId)).length

/-- `addBook`, which throws `std::runtime_error("Author not found")` for an unknown
author. -/
def addBook (db : Database) (title genre : String) (year authorId : Int) :
    Except String (Book × Database) :=
  if (db.authors.lookup authorId).isNone then .error "Author not found"
  else
    let book : Book := ⟨db.nextBookId, title, genre, year, authorId⟩
    .ok (book, { db with books := db.books.insert db.nextBookId book,
                         nextBookId := db.nextBookId + 1 })

/-- `getBook`. -/
def getBook (db : Database) (id : Int) : Book :=
  (db.books.lookup id).getD .default

/-- `updateBook`: the author is checked before the book is looked up. -/
def updateBook (db : Database) (id : Int) (title genre : String) (year authorId : Int) :
    Bool × Database :=
  if (db.authors.lookup authorId).isNone then (false, db)
  else
    match db.books.lookup id with
    | some book =>
      let updated := { book with title := title, genre := genre, year := year, authorId := authorId }
      (true, { db with books := db.books.insert id updated })
    | none => (false, db)

/-- `deleteBook`. -/
def deleteBook (db : Database) (id : Int) : Bool × Database :=
  ((db.books.lookup id).isSome, { db with books := db.books.erase id })

/-- `getAllBooks`. -/
def getAllBooks (db : Database) : List Book :=
  values db.books

/-- `getBooksByGenre`. -/
def getBooksByGenre (db : Database) (genre : String) : List Book :=
  (values db.books).filter (·.genre == genre)

/-- The slice `[start, min(start + limit, size))` both paginations take, in `int`.  When
`end < start` (a negative `limit`, or `start + limit` past `INT_MAX`) the code builds a
vector from a reversed iterator range, which is undefined; the model gives the empty
list there. -/
def pageSlice (books : List Book) (page limit : Int) : List Book :=
  let size := wrapInt32 books.length
  let start := wrapInt32 (wrapInt32 (page - 1) * limit)
  let start := if start < 0 then 0 else start
  if start ≥ size then []
  else
    let stop := min (wrapInt32 (start + limit)) size
    (books.take stop.toNat).drop start.toNat

/-- `getPaginatedBooks`. -/
def getPaginatedBooks (db : Database) (page limit : Int) : List Book :=
  pageSlice (values db.books) page limit

/-- `getFilteredAndPaginatedBooks`: an empty genre matches every book. -/
def getFilteredAndPaginatedBooks (db : Database) (genre : String) (page limit : Int) : List Book :=
  pageSlice ((values db.books).filter fun b => genre.isEmpty || b.genre == genre) page limit

/-! ## Pages -/

/-- While `page * limit` fits an `int`, a page of fewer than `2 ^ 31` books is the slice
the arithmetic describes: the books from position `(page - 1) * limit` on, at most
`limit` of them, and none once that position is past the last book. -/
theorem pageSlice_eq {books : List Book} {page limit : Int} (hpage : 1 ≤ page) (hlimit : 1 ≤ limit)
    (hsize : books.length < 2 ^ 31) (hfit : page * limit < 2 ^ 31) :
    pageSlice books page limit = (books.drop ((page - 1) * limit).toNat).take limit.toNat := by
  have hmul : (page - 1) * limit = page * limit - limit := by
    rw [Int.sub_mul, Int.one_mul]
  have hle : 1 * limit ≤ page * limit := Int.mul_le_mul_of_nonneg_right hpage (by omega)
  have hle' : page * 1 ≤ page * limit := Int.mul_le_mul_of_nonneg_left hlimit (by omega)
  have hstart : wrapInt32 (wrapInt32 (page - 1) * limit) = (page - 1) * limit := by
    rw [@wrapInt32_eq_self (page - 1) (by omega) (by omega),
      wrapInt32_eq_self (by omega) (by omega)]
  have hstop : wrapInt32 ((page - 1) * limit + limit) = (page - 1) * limit + limit :=
    wrapInt32_eq_self (by omega) (by omega)
  have hnonneg : ¬(page - 1) * limit < 0 := by omega
  unfold pageSlice
  simp only [@wrapInt32_eq_self books.length (by omega) (by omega), hstart, hstop, hnonneg,
    if_false]
  split_ifs with hpast
  · rw [List.drop_eq_nil_of_le (by omega), List.take_nil]
  · rw [List.drop_take, List.take_eq_take, List.length_drop]
    clear hmul hle hle' hstart hstop hfit
    omega

/-- The second page of two on three books. -/
theorem pageSlice_eq_second_page :
    pageSlice [.default, .default, .default] 2 2 = ([Book.default, .default, .default].drop 2).take 2 :=
  pageSlice_eq (by decide) (by decide) (by decide) (by decide)

/-- Page `INT_MAX` with limit 2: `(page - 1) * limit` is `2 ^ 32 - 4`, which wraps to
`-4`; the start is clamped to 0 and the page is the first two books. -/
theorem pageSlice_intMax_two {books : List Book} (hsize : books.length < 2 ^ 31) :
    pageSlice books 2147483647 2 = books.take 2 := by
  have hstart : wrapInt32 (wrapInt32 (2147483647 - 1) * 2) = -4 := by decide
  have hstop : wrapInt32 (0 + 2) = 2 := by decide
  unfold pageSlice
  simp only [@wrapInt32_eq_self books.length (by omega) (by omega), hstart,
    show (-4 : Int) < 0 by decide, if_true, hstop, Int.toNat_zero, List.drop_zero]
  split_ifs with hpast
  · rw [List.length_eq_zero.mp (show books.length = 0 by omega), List.take_nil]
  · rw [List.take_eq_take]
    omega

/-! ## What the calls do -/

theorem updateAuthor_eq_false {db db' : Database} {id : Int} {firstName lastName dob : String}
    (h : db.updateAuthor id firstName lastName dob = (false, db')) : db' = db := by
  unfold updateAuthor at h
  split at h <;> cases h
  rfl

/-- A refused `deleteAuthor` changes nothing, whether a book names the author or no
author has the id. -/
theorem deleteAuthor_eq_false {db db' : Database} {id : Int} (h : db.deleteAuthor id = (false, db')) :
    db' = db := by
  unfold deleteAuthor at h
  split at h
  · cases h
    rfl
  · obtain ⟨hnone, rfl⟩ := Prod.mk.inj h
    rw [erase_of_lookup_eq_none (by simpa using hnone)]

theorem addBook_eq_ok {db db' : Database} {title genre : String} {year authorId : Int} {book : Book}
    (h : db.addBook title genre year authorId = .ok (book, db')) :
    book = ⟨db.nextBookId, title, genre, year, authorId⟩ ∧
      db' = { db with books := db.books.insert db.nextBookId book, nextBookId := db.nextBookId + 1 } := by
  unfold addBook at h
  split at h <;> cases h
  exact ⟨rfl, rfl⟩

theorem updateBook_eq_false {db db' : Database} {id : Int} {title genre : String} {year authorId : Int}
    (h : db.updateBook id title genre year authorId = (false, db')) : db' = db := by
  unfold updateBook at h
  split_ifs at h
  · cases h
    rfl
  · split at h <;> cases h
    rfl

theorem deleteBook_eq_false {db db' : Database} {id : Int} (h : db.deleteBook id = (false, db')) :
    db' = db := by
  obtain ⟨hnone, rfl⟩ := Prod.mk.inj h
  rw [erase_of_lookup_eq_none (by simpa using hnone)]

end Database

/-- A call on the database. -/
inductive DatabaseOp where
  | addAuthor (firstName lastName dob : String)
  | updateAuthor (id : Int) (firstName lastName dob : String)
  | deleteAuthor (id : Int)
  | addBook (title genre : String) (year authorId : Int)
  | updateBook (id : Int) (title genre : String) (year authorId : Int)
  | deleteBook (id : Int)
  | getAuthor (id : Int)
  | getAllAuthors
  | getBookCountForAuthor (authorId : Int)
  | getBook (id : Int)
  | getAllBooks
  | getBooksByGenre (genre : String)
  | getPaginatedBooks (page limit : Int)
  | getFilteredAndPaginatedBooks (genre : String) (page limit : Int)

/-- The database after a call; a call that throws leaves it as it was, and the readers
do not change it. -/
def DatabaseOp.apply : DatabaseOp → Database → Database
  | addAuthor fn ln dob, db => (db.addAuthor fn ln dob).2
  | updateAuthor id fn ln dob, db => (db.updateAuthor id fn ln dob).2
  | deleteAuthor id, db => (db.deleteAuthor id).2
  | addBook t g y a, db =>
    match db.addBook t g y a with
    | .ok (_, db') => db'
    | .error _ => db
  | updateBook id t g y a, db => (db.updateBook id t g y a).2
  | deleteBook id, db => (db.deleteBook id).2
  | getAuthor _, db | getAllAuthors, db | getBookCountForAuthor _, db | getBook _, db
  | getAllBooks, db | getBooksByGenre _, db | getPaginatedBooks _ _, db
  | getFilteredAndPaginatedBooks _ _ _, db => db

/-- The database after a sequence of calls. -/
def runOps (ops : List DatabaseOp) (db : Database) : Database :=
  ops.foldl (fun db op => op.apply db) db

/-! ## Referential integrity -/

theorem mem_values_of_lookup {V : Type} {m : AList (fun _ : Int => V)} {k : Int} {v : V}
    (h : m.lookup k = some v) : v ∈ values m := by
  have hk : (⟨k, v⟩ : Σ _ : Int, V) ∈ m.entries := AList.mem_lookup_iff.mp h
  exact List.mem_map.mpr ⟨_, (List.mergeSort_perm _ _).mem_iff.mpr hk, rfl⟩

theorem isSome_lookup_insert {V : Type} {m : AList (fun _ : Int => V)} {x : Int} (k : Int) (v : V)
    (h : (m.lookup x).isSome) : ((m.insert k v).lookup x).isSome := by
  by_cases hx : x = k
  · subst hx
    simp
  · rwa [AList.lookup_insert_ne hx]

namespace Database

/-- Every stored book names a stored author. -/
def RefIntegrity (db : Database) : Prop :=
  ∀ bid b, db.books.lookup bid = some b → (db.authors.lookup b.authorId).isSome

theorem refIntegrity_empty : empty.RefIntegrity := by
  simp [RefIntegrity, empty]

/-- A stored book keeps its author stored under a change of the authors alone that
keeps every stored author stored. -/
theorem RefIntegrity.of_authors {db : Database} (h : db.RefIntegrity)
    {authors : AList (fun _ : Int => Author)}
    (ha : ∀ x, (db.authors.lookup x).isSome → (authors.lookup x).isSome) :
    RefIntegrity { db with authors := authors } :=
  fun bid b hb => ha _ (h bid b hb)

/-- A new or changed book that names a stored author keeps the integrity. -/
theorem RefIntegrity.insert_book {db : Database} (h : db.RefIntegrity) (id : Int) (book : Book)
    (hb : (db.authors.lookup book.authorId).isSome) :
    RefIntegrity { db with books := db.books.insert id book } := by
  intro bid b hlook
  by_cases hid : bid = id
  · subst hid
    simp only [AList.lookup_insert, Option.some.injEq] at hlook
    exact hlook ▸ hb
  · exact h bid b (by rwa [AList.lookup_insert_ne hid] at hlook)

/-- Every call keeps every book's author stored. -/
theorem RefIntegrity.apply {db : Database} (h : db.RefIntegrity) (op : DatabaseOp) :
    (op.apply db).RefIntegrity := by
  cases op with
  | addAuthor fn ln dob => exact h.of_authors fun x => isSome_lookup_insert _ _
  | updateAuthor id fn ln dob =>
    simp only [DatabaseOp.apply, updateAuthor]
    split
    · exact h.of_authors fun x => isSome_lookup_insert _ _
    · exact h
  | deleteAuthor id =>
    simp only [DatabaseOp.apply, deleteAuthor]
    split
    · exact h
    · next hany =>
      intro bid b hb
      have hne : b.authorId ≠ id := fun heq =>
        hany (List.any_eq_true.mpr ⟨b, mem_values_of_lookup hb, by simp [heq]⟩)
      simpa [AList.lookup_erase_ne hne] using h bid b hb
  | addBook t g y a =>
    by_cases ha : (db.authors.lookup a).isNone
    · simpa [DatabaseOp.apply, addBook, ha] using h
    · simpa [DatabaseOp.apply, addBook, ha] using
        h.insert_book db.nextBookId ⟨db.nextBookId, t, g, y, a⟩
          (Option.ne_none_iff_isSome.mp (by simpa using ha))
  | updateBook id t g y a =>
    simp only [DatabaseOp.apply, updateBook]
    split
    · exact h
    · next hsome =>
      split
      · exact h.insert_book _ _ (Option.ne_none_iff_isSome.mp (by simpa using hsome))
      · exact h
  | deleteBook id =>
    intro bid b hb
    by_cases hid : bid = id
    · subst hid
      simp [DatabaseOp.apply, deleteBook, AList.lookup_erase] at hb
    · exact h bid b (by simpa [DatabaseOp.apply, deleteBook, AList.lookup_erase_ne hid] using hb)
  | getAuthor _ | getAllAuthors | getBookCountForAuthor _ | getBook _ | getAllBooks
  | getBooksByGenre _ | getPaginatedBooks _ _ | getFilteredAndPaginatedBooks _ _ _ => exact h

theorem RefIntegrity.runOps {db : Database} (h : db.RefIntegrity) (ops : List DatabaseOp) :
    (Library.runOps ops db).RefIntegrity := by
  induction ops generalizing db with
  | nil => exact h
  | cons op ops ih => exact ih (h.apply op)

end Database

open Database

/-- From the empty database, through every sequence of calls, every stored book names a
stored author.  An `addBook` or `updateBook` naming an unknown author, and a
`deleteAuthor` of an author who has a book, are refused and change nothing. -/
theorem database_integrity :
    (∀ ops, (runOps ops .empty).RefIntegrity) ∧
      (∀ (db : Database) title genre year authorId, db.authors.lookup authorId = none →
        db.addBook title genre year authorId = .error "Author not found" ∧
          (DatabaseOp.addBook title genre year authorId).apply db = db) ∧
      (∀ (db : Database) id title genre year authorId, db.authors.lookup authorId = none →
        db.updateBook id title genre year authorId = (false, db)) ∧
      (∀ (db : Database) id, (∃ bid b, db.books.lookup bid = some b ∧ b.authorId = id) →
        db.deleteAuthor id = (false, db)) := by
  refine ⟨fun ops => refIntegrity_empty.runOps ops, fun db t g y a ha => ?_,
    fun db id t g y a ha => by simp [updateBook, ha], fun db id ⟨bid, b, hb, hid⟩ => ?_⟩
  · have herr : db.addBook t g y a = .error "Author not found" := by simp [addBook, ha]
    exact ⟨herr, by simp [DatabaseOp.apply, herr]⟩
  · have hany : (values db.books).any (·.authorId == id) = true :=
      List.any_eq_true.mpr ⟨b, mem_values_of_lookup hb, by simp [hid]⟩
    simp [deleteAuthor, hany]

end ArchitectureCourse.Library
