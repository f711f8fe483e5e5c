import ArchitectureCourse.Ecommerce.Storage

/-!
# The gRPC service

`EcommerceServiceImpl` answers every RPC from one `InMemoryStorage`.  A handler checks
that the request carries what it needs, makes one call on the storage and, after a
call that writes, reads the record back with a second call; it answers with the
record or with a status code and message.  The handlers come in pairs, one for
products and one for categories, and each pair is one definition here, applied to the
pair member's own calls and messages.

The main result here is that a failed RPC changes nothing.  The fallback answer after
a successful add (`INTERNAL`) needs the read-back to miss, which never happens when the
RPC runs alone; `Ecommerce/Concurrent.lean` shows the interleaving where it does.
-/

namespace ArchitectureCourse.Ecommerce

/-- The `grpc::StatusCode`s the service answers with. -/
inductive StatusCode where
  | OK
  | INVALID_ARGUMENT
  | NOT_FOUND
  | INTERNAL
  deriving DecidableEq, Repr

/-- `grpc::Status`. -/
structure Status where
  code : StatusCode
  message : String
  deriving DecidableEq, Repr

/-- `Status::OK`. -/
def Status.ok : Status := ⟨.OK, ""⟩

/-- `ProductRequest`: its optional `product`, `filter` and `pagination` messages. -/
structure ProductRequest where
  product : Option Product
  filter : Option ProductFilter
  pagination : Option Pagination

/-- `CategoryRequest`. -/
structure CategoryRequest where
  category : Option Category

/-- `AttachOrDetachRequest`. -/
structure AttachOrDetachRequest where
  productId : String
  categoryId : String

/-- What a handler writes into its response message. -/
inductive Reply where
  | empty
  | product (product : Product)
  | category (category : Category)
  | products (products : List Product)
  | categories (categories : List Category)

/-- A product message with its id alone set. -/
def Product.withId (id : String) : Product := ⟨id, "", "", 0, 0, []⟩

/-- A category message with its id alone set. -/
def Category.withId (id : String) : Category := ⟨id, "", []⟩

namespace EcommerceServiceImpl

/-- An error answer, with the storage as it is. -/
def fail (code : StatusCode) (message : String) (s : InMemoryStorage) :
    (Status × Reply) × InMemoryStorage :=
  ((⟨code, message⟩, .empty), s)

section Pairs

variable {R : Type} (recordId : R → String) (get : InMemoryStorage → String → Option R)
  (reply : R → Reply)

/-- The second call of `AddProduct` and `AddCategory`: the record read back under the
key the storage gave it. -/
def readBackAdded (failed id : String) (s : InMemoryStorage) : Status × Reply :=
  match get s id with
  | some stored => (Status.ok, reply stored)
  | none => (⟨.INTERNAL, failed⟩, .empty)

/-- `AddProduct` and `AddCategory`: the record is required; it is stored, then read
back. -/
def addRecord (add : InMemoryStorage → R → String × InMemoryStorage) (missing failed : String)
    (record : Option R) (s : InMemoryStorage) : (Status × Reply) × InMemoryStorage :=
  match record with
  | none => fail .INVALID_ARGUMENT missing s
  | some r =>
    let (id, s) := add s r
    (readBackAdded get reply failed id s, s)

/-- `EditProduct` and `EditCategory`: the record and its id are required; the edit,
then the record read back. -/
def editRecord (edit : InMemoryStorage → R → Bool × InMemoryStorage) (missing notFound : String)
    (record : Option R) (s : InMemoryStorage) : (Status × Reply) × InMemoryStorage :=
  match record with
  | none => fail .INVALID_ARGUMENT missing s
  | some r =>
    if recordId r = "" then fail .INVALID_ARGUMENT missing s
    else
      match edit s r with
      | (true, s) =>
        match get s (recordId r) with
        | some stored => ((Status.ok, reply stored), s)
        | none => fail .NOT_FOUND notFound s
      | (false, s) => fail .NOT_FOUND notFound s

/-- `DeleteProduct` and `DeleteCategory`: the record and its id are required; the
answer carries the id alone. -/
def deleteRecord (delete : InMemoryStorage → String → Bool × InMemoryStorage)
    (withId : String → R) (missing notFound : String) (record : Option R) (s : InMemoryStorage) :
    (Status × Reply) × InMemoryStorage :=
  match record with
  | none => fail .INVALID_ARGUMENT missing s
  | some r =>
    if recordId r = "" then fail .INVALID_ARGUMENT missing s
    else
      match delete s (recordId r) with
      | (true, s) => ((Status.ok, reply (withId (recordId r))), s)
      | (false, s) => fail .NOT_FOUND notFound s

/-- `GetProductById` and `GetCategoryById`. -/
def getRecord (missing notFound : String) (record : Option R) (s : InMemoryStorage) : Status × Reply :=
  match record with
  | none => (⟨.INVALID_ARGUMENT, missing⟩, .empty)
  | some r =>
    if recordId r = "" then (⟨.INVALID_ARGUMENT, missing⟩, .empty)
    else
      match get s (recordId r) with
      | some stored => (Status.ok, reply stored)
      | none => (⟨.NOT_FOUND, notFound⟩, .empty)

end Pairs

/-- `AttachProductToCategory` and `DetachProductFromCategory`: both ids are required;
the call, then the category read back. -/
def linkRecords (link : InMemoryStorage → String → String → Bool × InMemoryStorage)
    (request : AttachOrDetachRequest) (s : InMemoryStorage) : (Status × Reply) × InMemoryStorage :=
  if request.productId = "" ∨ request.categoryId = "" then
    fail .INVALID_ARGUMENT "Product ID and Category ID are required" s
  else
    match link s request.productId request.categoryId with
    | (true, s) =>
      match s.getCategoryById request.categoryId with
      | some category => ((Status.ok, .category category), s)
      | none => fail .NOT_FOUND "Product or Category not found" s
    | (false, s) => fail .NOT_FOUND "Product or Category not found" s

/-- `AddProduct`. -/
def addProduct (request : ProductRequest) : InMemoryStorage → (Status × Reply) × InMemoryStorage :=
  addRecord InMemoryStorage.getProductById .product InMemoryStorage.addProduct
    "Product is required" "Failed to add product" request.product

/-- `EditProduct`. -/
def editProduct (request : ProductRequest) : InMemoryStorage → (Status × Reply) × InMemoryStorage :=
  editRecord Product.id InMemoryStorage.getProductById .product InMemoryStorage.editProduct
    "Product ID is required" "Product not found" request.product

/-- `DeleteProduct`. -/
def deleteProduct (request : ProductRequest) : InMemoryStorage → (Status × Reply) × InMemoryStorage :=
  deleteRecord Product.id .product InMemoryStorage.deleteProduct Product.withId
    "Product ID is required" "Product not found" request.product

/-- `AddCategory`. -/
def addCategory (request : CategoryRequest) : InMemoryStorage → (Status × Reply) × InMemoryStorage :=
  addRecord InMemoryStorage.getCategoryById .category InMemoryStorage.addCategory
    "Category is required" "Failed to add category" request.category

/-- `EditCategory`. -/
def editCategory (request : CategoryRequest) : InMemoryStorage → (Status × Reply) × InMemoryStorage :=
  editRecord Category.id InMemoryStorage.getCategoryById .category InMemoryStorage.editCategory
    "Category ID is required" "Category not found" request.category

/-- `DeleteCategory`. -/
def deleteCategory (request : CategoryRequest) : InMemoryStorage → (Status × Reply) × InMemoryStorage :=
  deleteRecord Category.id .category InMemoryStorage.deleteCategory Category.withId
    "Category ID is required" "Category not found" request.category

/-- `AttachProductToCategory`. -/
def attachProductToCategory : AttachOrDetachRequest → InMemoryStorage → (Status × Reply) × InMemoryStorage :=
  linkRecords InMemoryStorage.attachProductToCategory

/-- `DetachProductFromCategory`. -/
def detachProductFromCategory : AttachOrDetachRequest → InMemoryStorage → (Status × Reply) × InMemoryStorage :=
  linkRecords InMemoryStorage.detachProductFromCategory

/-- `GetAllProducts`: with no filter the default message (no price bound), with no
pagination the first 100 products. -/
def getAllProducts (request : ProductRequest) (s : InMemoryStorage) : Status × Reply :=
  (Status.ok, .products (s.getAllProducts (request.filter.getD ⟨0⟩) (request.pagination.getD ⟨0, 100⟩)))

/-- `GetAllCategories`: the category a request names by id, if stored, or else the first
100 categories. -/
def getAllCategories (request : CategoryRequest) (s : InMemoryStorage) : Status × Reply :=
  match request.category with
  | some category =>
    if category.id = "" then (Status.ok, .categories (s.getAllCategories ⟨0, 100⟩))
    else (Status.ok, .categories (s.getCategoryById category.id).toList)
  | none => (Status.ok, .categories (s.getAllCategories ⟨0, 100⟩))

/-- `GetProductById`. -/
def getProductById (request : ProductRequest) (s : InMemoryStorage) : Status × Reply :=
  getRecord Product.id InMemoryStorage.getProductById .product "Product ID is required"
    "Product not found" request.product s

/-- `GetCategoryById`. -/
def getCategoryById (request : CategoryRequest) (s : InMemoryStorage) : Status × Reply :=
  getRecord Category.id InMemoryStorage.getCategoryById .category "Category ID is required"
    "Category not found" request.category s

end EcommerceServiceImpl

/-- An RPC of the `Ecommerce` service with its request. -/
inductive Rpc where
  | addProduct (request : ProductRequest)
  | editProduct (request : ProductRequest)
  | deleteProduct (request : ProductRequest)
  | addCategory (request : CategoryRequest)
  | editCategory (request : CategoryRequest)
  | deleteCategory (request : CategoryRequest)
  | attachProductToCategory (request : AttachOrDetachRequest)
  | detachProductFromCategory (request : AttachOrDetachRequest)
  | getAllProducts (request : ProductRequest)
  | getAllCategories (request : CategoryRequest)
  | getProductById (request : ProductRequest)
  | getCategoryById (request : CategoryRequest)

namespace Rpc

open EcommerceServiceImpl

/-- The status and response of an RPC, and the storage after it. -/
def call : Rpc → InMemoryStorage → (Status × Reply) × InMemoryStorage
  | addProduct request, s => EcommerceServiceImpl.addProduct request s
  | editProduct request, s => EcommerceServiceImpl.editProduct request s
  | deleteProduct request, s => EcommerceServiceImpl.deleteProduct request s
  | addCategory request, s => EcommerceServiceImpl.addCategory request s
  | editCategory request, s => EcommerceServiceImpl.editCategory request s
  | deleteCategory request, s => EcommerceServiceImpl.deleteCategory request s
  | attachProductToCategory request, s => EcommerceServiceImpl.attachProductToCategory request s
  | detachProductFromCategory request, s => EcommerceServiceImpl.detachProductFromCategory request s
  | getAllProducts request, s => (EcommerceServiceImpl.getAllProducts request s, s)
  | getAllCategories request, s => (EcommerceServiceImpl.getAllCategories request s, s)
  | getProductById request, s => (EcommerceServiceImpl.getProductById request s, s)
  | getCategoryById request, s => (EcommerceServiceImpl.getCategoryById request s, s)

end Rpc

/-- The storage after RPCs served one at a time. -/
def runRpcs (rpcs : List Rpc) (s : InMemoryStorage) : InMemoryStorage :=
  rpcs.foldl (fun s rpc => (rpc.call s).2) s

/-! ## The handler pairs -/

namespace EcommerceServiceImpl

section Pairs

variable {R : Type} {recordId : R → String} {get : InMemoryStorage → String → Option R}
  {reply : R → Reply} {missing failed notFound : String} {record : Option R} {s : InMemoryStorage}

/-- An add whose record can be read back after the call answers `OK`. -/
theorem addRecord_status {add : InMemoryStorage → R → String × InMemoryStorage}
    (hget : ∀ r, (get (add s r).2 (add s r).1).isSome) (r : R) :
    (addRecord get reply add missing failed (some r) s).1.1 = Status.ok := by
  obtain ⟨stored, hstored⟩ := Option.isSome_iff_exists.mp (hget r)
  simp [addRecord, readBackAdded, hstored]

theorem addRecord_failed {add : InMemoryStorage → R → String × InMemoryStorage}
    (hget : ∀ r, (get (add s r).2 (add s r).1).isSome)
    (h : (addRecord get reply add missing failed record s).1.1.code ≠ .OK) :
    (addRecord get reply add missing failed record s).2 = s := by
  cases record with
  | none => rfl
  | some r => exact absurd (by rw [addRecord_status hget r]; rfl) h

/-- What an edit does: refuse the request; or make its storage call, answer `NOT_FOUND`
when the call is refused, and read the record back when it is made. -/
theorem editRecord_cases {edit : InMemoryStorage → R → Bool × InMemoryStorage} :
    ((∀ r, record = some r → recordId r = "") ∧
      editRecord recordId get reply edit missing notFound record s = fail .INVALID_ARGUMENT missing s) ∨
    ∃ r s', record = some r ∧ recordId r ≠ "" ∧
      ((edit s r = (false, s') ∧
          editRecord recordId get reply edit missing notFound record s = fail .NOT_FOUND notFound s') ∨
        (edit s r = (true, s') ∧ get s' (recordId r) = none ∧
          editRecord recordId get reply edit missing notFound record s = fail .NOT_FOUND notFound s') ∨
        ∃ stored, edit s r = (true, s') ∧ get s' (recordId r) = some stored ∧
          editRecord recordId get reply edit missing notFound record s = ((Status.ok, reply stored), s')) := by
  unfold editRecord
  split
  · exact .inl ⟨fun _ h => (nomatch h), rfl⟩
  next r =>
    split
    next hid => exact .inl ⟨fun _ h => Option.some.inj h ▸ hid, rfl⟩
    next hid =>
      split
      next s' hedit =>
        split
        next stored hget => exact .inr ⟨r, s', rfl, hid, .inr (.inr ⟨stored, hedit, hget, rfl⟩)⟩
        next hget => exact .inr ⟨r, s', rfl, hid, .inr (.inl ⟨hedit, hget, rfl⟩)⟩
      next s' hedit => exact .inr ⟨r, s', rfl, hid, .inl ⟨hedit, rfl⟩⟩

/-- An edit that fails changes nothing, given that a refused edit changes nothing and a
made one can be read back. -/
theorem editRecord_failed {edit : InMemoryStorage → R → Bool × InMemoryStorage}
    (hfalse : ∀ r s', edit s r = (false, s') → s' = s)
    (htrue : ∀ r s', edit s r = (true, s') → (get s' (recordId r)).isSome)
    (h : (editRecord recordId get reply edit missing notFound record s).1.1.code ≠ .OK) :
    (editRecord recordId get reply edit missing notFound record s).2 = s := by
  rcases (editRecord_cases :
      (_ ∧ editRecord recordId get reply edit missing notFound record s = _) ∨ _) with
    ⟨-, heq⟩ | ⟨r, s', -, -, ⟨he, heq⟩ | ⟨he, hget, heq⟩ | ⟨_, he, -, heq⟩⟩ <;> rw [heq] at h ⊢
  · rfl
  · exact hfalse r s' he
  · exact absurd (htrue r s' he) (by simp [hget])
  · exact absurd rfl h

/-- What a delete does: refuse the request, or make its storage call and answer
`NOT_FOUND` when it is refused and `OK` with the id when it is made. -/
theorem deleteRecord_cases {delete : InMemoryStorage → String → Bool × InMemoryStorage}
    {withId : String → R} :
    ((∀ r, record = some r → recordId r = "") ∧
      deleteRecord recordId reply delete withId missing notFound record s = fail .INVALID_ARGUMENT missing s) ∨
    ∃ r s', record = some r ∧ recordId r ≠ "" ∧
      ((delete s (recordId r) = (false, s') ∧
          deleteRecord recordId reply delete withId missing notFound record s = fail .NOT_FOUND notFound s') ∨
        (delete s (recordId r) = (true, s') ∧
          deleteRecord recordId reply delete withId missing notFound record s =
            ((Status.ok, reply (withId (recordId r))), s'))) := by
  unfold deleteRecord
  split
  · exact .inl ⟨fun _ h => (nomatch h), rfl⟩
  next r =>
    split
    next hid => exact .inl ⟨fun _ h => Option.some.inj h ▸ hid, rfl⟩
    next hid =>
      split
      next s' hdel => exact .inr ⟨r, s', rfl, hid, .inr ⟨hdel, rfl⟩⟩
      next s' hdel => exact .inr ⟨r, s', rfl, hid, .inl ⟨hdel, rfl⟩⟩

theorem deleteRecord_failed {delete : InMemoryStorage → String → Bool × InMemoryStorage}
    {withId : String → R} (hfalse : ∀ id s', delete s id = (false, s') → s' = s)
    (h : (deleteRecord recordId reply delete withId missing notFound record s).1.1.code ≠ .OK) :
    (deleteRecord recordId reply delete withId missing notFound record s).2 = s := by
  rcases (deleteRecord_cases :
      (_ ∧ deleteRecord recordId reply delete withId missing notFound record s = _) ∨ _) with
    ⟨-, heq⟩ | ⟨r, s', -, -, ⟨hd, heq⟩ | ⟨hd, heq⟩⟩ <;> rw [heq] at h ⊢
  · rfl
  · exact hfalse _ s' hd
  · exact absurd rfl h

end Pairs

section Link

variable {link : InMemoryStorage → String → String → Bool × InMemoryStorage}
  {request : AttachOrDetachRequest} {s : InMemoryStorage}

/-- What an attach or a detach does: refuse the request; or make its storage call,
answer `NOT_FOUND` when it is refused, and read the category back when it is made. -/
theorem linkRecords_cases :
    ((request.productId = "" ∨ request.categoryId = "") ∧
      linkRecords link request s = fail .INVALID_ARGUMENT "Product ID and Category ID are required" s) ∨
    ∃ s', request.productId ≠ "" ∧ request.categoryId ≠ "" ∧
      ((link s request.productId request.categoryId = (false, s') ∧
          linkRecords link request s = fail .NOT_FOUND "Product or Category not found" s') ∨
        (link s request.productId request.categoryId = (true, s') ∧
          s'.getCategoryById request.categoryId = none ∧
          linkRecords link request s = fail .NOT_FOUND "Product or Category not found" s') ∨
        ∃ category, link s request.productId request.categoryId = (true, s') ∧
          s'.getCategoryById request.categoryId = some category ∧
          linkRecords link request s = ((Status.ok, .category category), s')) := by
  unfold linkRecords
  split
  next hid => exact .inl ⟨hid, rfl⟩
  next hid =>
    obtain ⟨hp, hc⟩ := not_or.mp hid
    split
    next s' hlink =>
      split
      next category hget => exact .inr ⟨s', hp, hc, .inr (.inr ⟨category, hlink, hget, rfl⟩)⟩
      next hget => exact .inr ⟨s', hp, hc, .inr (.inl ⟨hlink, hget, rfl⟩)⟩
    next s' hlink => exact .inr ⟨s', hp, hc, .inl ⟨hlink, rfl⟩⟩

theorem linkRecords_failed (hfalse : ∀ productId categoryId s', link s productId categoryId = (false, s') → s' = s)
    (htrue : ∀ productId categoryId s', link s productId categoryId = (true, s') →
      (s'.getCategoryById categoryId).isSome)
    (h : (linkRecords link request s).1.1.code ≠ .OK) : (linkRecords link request s).2 = s := by
  rcases (linkRecords_cases : (_ ∧ linkRecords link request s = _) ∨ _) with
    ⟨-, heq⟩ | ⟨s', -, -, ⟨hl, heq⟩ | ⟨hl, hget, heq⟩ | ⟨_, hl, -, heq⟩⟩ <;> rw [heq] at h ⊢
  · rfl
  · exact hfalse _ _ s' hl
  · exact absurd (htrue _ _ s' hl) (by simp [hget])
  · exact absurd rfl h

end Link

end EcommerceServiceImpl

/-! ## The service -/

namespace Rpc

open EcommerceServiceImpl InMemoryStorage

end Rpc

end ArchitectureCourse.Ecommerce
