import ArchitectureCourse.Ecommerce.Service
import ArchitectureCourse.Support.Workers

/-!
# Concurrent RPCs

The synchronous gRPC server runs each RPC on a thread of its pool, and every thread
shares the one `storage_`.  Each member function of `InMemoryStorage` takes `mutex_` for
its whole body; the handlers of `EcommerceServiceImpl` hold nothing.  `AddProduct`,
`AddCategory`, the two edits and the two link RPCs make two storage calls, the write
and a read of the record they answer with; every other RPC makes one, and an RPC whose
request lacks what it needs makes none.

Each RPC is here a `Worker` whose calls are the handler's `storage_.` calls in order.
Run alone, every RPC answers as `Rpc.call`, so serving RPCs one at a time is one of the
interleavings.  Every call is a `StorageOp`, so over every interleaving of any RPCs the
storage is the empty storage after a sequence of storage calls, and every record's
message lists the keys of its vector.  The answers are another matter: a
`DeleteProduct` of the new key between the two calls of `AddProduct` makes it answer
`INTERNAL`, which `AddProduct` never answers alone.
-/

namespace ArchitectureCourse.Ecommerce

namespace EcommerceServiceImpl

/-! ## Handlers as threads -/

section Pairs

variable {R : Type} (recordId : R → String) (get : InMemoryStorage → String → Option R)
  (reply : R → Reply)

/-- `AddProduct` and `AddCategory`: the add, then the read of the key it returned. -/
def addWorker (add : InMemoryStorage → R → String × InMemoryStorage) (missing failed : String)
    (record : Option R) : Worker InMemoryStorage (Status × Reply) :=
  match record with
  | none => .done (⟨.INVALID_ARGUMENT, missing⟩, .empty)
  | some r =>
    .call (fun s =>
        let id := (add s r).1
        .single fun s => (readBackAdded get reply failed id s, s))
      fun s => (add s r).2

/-- `EditProduct` and `EditCategory`: the edit, then after a successful one the read. -/
def editWorker (edit : InMemoryStorage → R → Bool × InMemoryStorage) (missing notFound : String)
    (record : Option R) : Worker InMemoryStorage (Status × Reply) :=
  match record with
  | none => .done (⟨.INVALID_ARGUMENT, missing⟩, .empty)
  | some r =>
    if recordId r = "" then .done (⟨.INVALID_ARGUMENT, missing⟩, .empty)
    else
      .call (fun s =>
          if (edit s r).1 then
            .single fun s =>
              (match get s (recordId r) with
                | some stored => (Status.ok, reply stored)
                | none => (⟨.NOT_FOUND, notFound⟩, .empty), s)
          else .done (⟨.NOT_FOUND, notFound⟩, .empty))
        fun s => (edit s r).2

/-- `DeleteProduct` and `DeleteCategory`: one call. -/
def deleteWorker (delete : InMemoryStorage → String → Bool × InMemoryStorage)
    (withId : String → R) (missing notFound : String) (record : Option R) :
    Worker InMemoryStorage (Status × Reply) :=
  match record with
  | none => .done (⟨.INVALID_ARGUMENT, missing⟩, .empty)
  | some r =>
    if recordId r = "" then .done (⟨.INVALID_ARGUMENT, missing⟩, .empty)
    else
      .single fun s =>
        match delete s (recordId r) with
        | (true, s) => ((Status.ok, reply (withId (recordId r))), s)
        | (false, s) => ((⟨.NOT_FOUND, notFound⟩, .empty), s)

/-- `GetProductById` and `GetCategoryById`: one read. -/
def getWorker (missing notFound : String) (record : Option R) : Worker InMemoryStorage (Status × Reply) :=
  match record with
  | none => .done (⟨.INVALID_ARGUMENT, missing⟩, .empty)
  | some r =>
    if recordId r = "" then .done (⟨.INVALID_ARGUMENT, missing⟩, .empty)
    else
      .single fun s =>
        (match get s (recordId r) with
          | some stored => (Status.ok, reply stored)
          | none => (⟨.NOT_FOUND, notFound⟩, .empty), s)

end Pairs

/-- `AttachProductToCategory` and `DetachProductFromCategory`: the link, then after a
successful one the read of the category. -/
def linkWorker (link : InMemoryStorage → String → String → Bool × InMemoryStorage)
    (request : AttachOrDetachRequest) : Worker InMemoryStorage (Status × Reply) :=
  if request.productId = "" ∨ request.categoryId = "" then
    .done (⟨.INVALID_ARGUMENT, "Product ID and Category ID are required"⟩, .empty)
  else
    .call (fun s =>
        if (link s request.productId request.categoryId).1 then
          .single fun s =>
            (match s.getCategoryById request.categoryId with
              | some category => (Status.ok, .category category)
              | none => (⟨.NOT_FOUND, "Product or Category not found"⟩, .empty), s)
        else .done (⟨.NOT_FOUND, "Product or Category not found"⟩, .empty))
      fun s => (link s request.productId request.categoryId).2

/-! ## Run alone, a handler answers as served one at a time -/

section Pairs

variable {R : Type} {recordId : R → String} {get : InMemoryStorage → String → Option R}
  {reply : R → Reply} (missing notFound : String) (record : Option R) (s : InMemoryStorage)

theorem addWorker_runAlone (add : InMemoryStorage → R → String × InMemoryStorage) :
    (addWorker get reply add missing notFound record).runAlone s =
      addRecord get reply add missing notFound record s := by
  rcases record with _ | r
  · rfl
  · rcases h : add s r with ⟨id, s'⟩
    simp [addWorker, addRecord, Worker.runAlone, h]

theorem editWorker_runAlone (edit : InMemoryStorage → R → Bool × InMemoryStorage) :
    (editWorker recordId get reply edit missing notFound record).runAlone s =
      editRecord recordId get reply edit missing notFound record s := by
  rcases record with _ | r
  · rfl
  by_cases hid : recordId r = ""
  · simp [editWorker, editRecord, hid, Worker.runAlone, fail]
  rcases h : edit s r with ⟨_ | _, s'⟩
  · simp [editWorker, editRecord, hid, h, Worker.runAlone, fail]
  · cases hget : get s' (recordId r) <;> simp [editWorker, editRecord, hid, h, hget, Worker.runAlone, fail]

theorem deleteWorker_runAlone (delete : InMemoryStorage → String → Bool × InMemoryStorage)
    (withId : String → R) :
    (deleteWorker recordId reply delete withId missing notFound record).runAlone s =
      deleteRecord recordId reply delete withId missing notFound record s := by
  rcases record with _ | r
  · rfl
  by_cases hid : recordId r = ""
  · simp [deleteWorker, deleteRecord, hid, Worker.runAlone, fail]
  · rcases h : delete s (recordId r) with ⟨_ | _, s'⟩ <;>
      simp [deleteWorker, deleteRecord, hid, h, fail]

theorem getWorker_runAlone :
    (getWorker recordId get reply missing notFound record).runAlone s =
      (getRecord recordId get reply missing notFound record s, s) := by
  rcases record with _ | r
  · rfl
  by_cases hid : recordId r = ""
  · simp [getWorker, getRecord, hid, Worker.runAlone]
  · cases hget : get s (recordId r) <;> simp [getWorker, getRecord, hid, hget]

end Pairs

theorem linkWorker_runAlone (link : InMemoryStorage → String → String → Bool × InMemoryStorage)
    (request : AttachOrDetachRequest) (s : InMemoryStorage) :
    (linkWorker link request).runAlone s = linkRecords link request s := by
  by_cases hid : request.productId = "" ∨ request.categoryId = ""
  · simp only [linkWorker, linkRecords, if_pos hid]
    rfl
  rcases h : link s request.productId request.categoryId with ⟨_ | _, s'⟩
  · simp [linkWorker, linkRecords, hid, h, Worker.runAlone, fail]
  · cases hget : s'.getCategoryById request.categoryId <;>
      simp [linkWorker, linkRecords, hid, h, hget, Worker.runAlone, fail]

/-! ## Every call is a storage call -/

section Pairs

variable {R : Type} {recordId : R → String} {get : InMemoryStorage → String → Option R}
  {reply : R → Reply} (missing notFound : String) (record : Option R)
  (readOp : String → StorageOp) (hread : ∀ id, (readOp id).apply = fun s => s)
include hread

theorem addWorker_performs (add : InMemoryStorage → R → String × InMemoryStorage)
    (addOp : R → StorageOp) (hadd : ∀ r, (fun s => (add s r).2) = (addOp r).apply) :
    (addWorker get reply add missing notFound record).Performs StorageOp.apply := by
  rcases record with _ | r
  · exact .done _
  · exact .call (addOp r) (hadd r) fun s => .single (readOp (add s r).1) (hread _).symm

theorem editWorker_performs (edit : InMemoryStorage → R → Bool × InMemoryStorage)
    (editOp : R → StorageOp) (hedit : ∀ r, (fun s => (edit s r).2) = (editOp r).apply) :
    (editWorker recordId get reply edit missing notFound record).Performs StorageOp.apply := by
  rcases record with _ | r
  · exact .done _
  dsimp only [editWorker]
  split
  · exact .done _
  refine .call (editOp r) (hedit r) fun s => ?_
  split
  · exact .single (readOp (recordId r)) (hread _).symm
  · exact .done _

theorem getWorker_performs :
    (getWorker recordId get reply missing notFound record).Performs StorageOp.apply := by
  rcases record with _ | r
  · exact .done _
  dsimp only [getWorker]
  split
  · exact .done _
  · exact .single (readOp (recordId r)) (hread _).symm

end Pairs

theorem deleteWorker_performs {R : Type} {recordId : R → String} {reply : R → Reply}
    (missing notFound : String) (record : Option R)
    (delete : InMemoryStorage → String → Bool × InMemoryStorage) (withId : String → R)
    (deleteOp : String → StorageOp) (hdelete : ∀ id s, (delete s id).2 = (deleteOp id).apply s) :
    (deleteWorker recordId reply delete withId missing notFound record).Performs StorageOp.apply := by
  rcases record with _ | r
  · exact .done _
  dsimp only [deleteWorker]
  split
  · exact .done _
  refine .single (deleteOp (recordId r)) (funext fun s => ?_)
  rcases h : delete s (recordId r) with ⟨_ | _, s'⟩ <;> simp [← hdelete, h]

theorem linkWorker_performs (link : InMemoryStorage → String → String → Bool × InMemoryStorage)
    (request : AttachOrDetachRequest) (linkOp : String → String → StorageOp)
    (hlink : ∀ p c, (fun s => (link s p c).2) = (linkOp p c).apply) :
    (linkWorker link request).Performs StorageOp.apply := by
  unfold linkWorker
  split
  · exact .done _
  refine .call (linkOp request.productId request.categoryId) (hlink _ _) fun s => ?_
  split
  · exact .single (.getCategoryById request.categoryId) rfl
  · exact .done _

end EcommerceServiceImpl

namespace Rpc

open EcommerceServiceImpl InMemoryStorage

/-- The thread that serves an RPC. -/
def worker : Rpc → Worker InMemoryStorage (Status × Reply)
  | addProduct request =>
    addWorker InMemoryStorage.getProductById .product InMemoryStorage.addProduct "Product is required"
      "Failed to add product" request.product
  | editProduct request =>
    editWorker Product.id InMemoryStorage.getProductById .product InMemoryStorage.editProduct
      "Product ID is required" "Product not found" request.product
  | deleteProduct request =>
    deleteWorker Product.id .product InMemoryStorage.deleteProduct Product.withId
      "Product ID is required" "Product not found" request.product
  | addCategory request =>
    addWorker InMemoryStorage.getCategoryById .category InMemoryStorage.addCategory "Category is required"
      "Failed to add category" request.category
  | editCategory request =>
    editWorker Category.id InMemoryStorage.getCategoryById .category InMemoryStorage.editCategory
      "Category ID is required" "Category not found" request.category
  | deleteCategory request =>
    deleteWorker Category.id .category InMemoryStorage.deleteCategory Category.withId
      "Category ID is required" "Category not found" request.category
  | attachProductToCategory request => linkWorker InMemoryStorage.attachProductToCategory request
  | detachProductFromCategory request => linkWorker InMemoryStorage.detachProductFromCategory request
  | getAllProducts request => .single fun s => (EcommerceServiceImpl.getAllProducts request s, s)
  | getAllCategories request => .single fun s => (EcommerceServiceImpl.getAllCategories request s, s)
  | getProductById request =>
    getWorker Product.id InMemoryStorage.getProductById .product "Product ID is required" "Product not found"
      request.product
  | getCategoryById request =>
    getWorker Category.id InMemoryStorage.getCategoryById .category "Category ID is required" "Category not found"
      request.category

/-- Run with no other call in between, the thread of every RPC answers as the service
that serves one RPC at a time, and leaves the same storage. -/
theorem runAlone_worker (rpc : Rpc) (s : InMemoryStorage) : rpc.worker.runAlone s = rpc.call s := by
  cases rpc with
  | addProduct | addCategory => exact addWorker_runAlone _ _ _ s _
  | editProduct | editCategory => exact editWorker_runAlone _ _ _ s _
  | deleteProduct | deleteCategory => exact deleteWorker_runAlone _ _ _ s _ _
  | attachProductToCategory | detachProductFromCategory => exact linkWorker_runAlone _ _ s
  | getAllProducts | getAllCategories => rfl
  | getProductById | getCategoryById => exact getWorker_runAlone _ _ _ s

/-- Whatever the earlier calls returned, every call the thread of an RPC makes is a call
of the storage. -/
theorem performs_worker (rpc : Rpc) : rpc.worker.Performs StorageOp.apply := by
  cases rpc with
  | addProduct =>
    exact addWorker_performs _ _ _ StorageOp.getProductById (fun _ => rfl) _ StorageOp.addProduct
      fun _ => rfl
  | addCategory =>
    exact addWorker_performs _ _ _ StorageOp.getCategoryById (fun _ => rfl) _ StorageOp.addCategory
      fun _ => rfl
  | editProduct =>
    exact editWorker_performs _ _ _ StorageOp.getProductById (fun _ => rfl) _ StorageOp.editProduct
      fun _ => rfl
  | editCategory =>
    exact editWorker_performs _ _ _ StorageOp.getCategoryById (fun _ => rfl) _ StorageOp.editCategory
      fun _ => rfl
  | deleteProduct =>
    exact deleteWorker_performs _ _ _ _ _ StorageOp.deleteProduct fun _ _ => rfl
  | deleteCategory =>
    exact deleteWorker_performs _ _ _ _ _ StorageOp.deleteCategory fun _ _ => rfl
  | attachProductToCategory =>
    exact linkWorker_performs _ _ StorageOp.attachProductToCategory fun _ _ => rfl
  | detachProductFromCategory =>
    exact linkWorker_performs _ _ StorageOp.detachProductFromCategory fun _ _ => rfl
  | getAllProducts request =>
    exact .single (.getAllProducts (request.filter.getD ⟨0⟩) (request.pagination.getD ⟨0, 100⟩)) rfl
  | getAllCategories => exact .single (.getAllCategories ⟨0, 100⟩) rfl
  | getProductById => exact getWorker_performs _ _ _ StorageOp.getProductById fun _ => rfl
  | getCategoryById => exact getWorker_performs _ _ _ StorageOp.getCategoryById fun _ => rfl

end Rpc

/-! ## Every interleaving of the RPCs -/

/-- RPCs in flight on a storage, each on a thread of its own. -/
def rpcPool (rpcs : List Rpc) (s : InMemoryStorage) : Pool InMemoryStorage (Status × Reply) :=
  ⟨s, rpcs.map Rpc.worker⟩

/-- Over every interleaving of the calls of any RPCs on the storage the server starts
with, the storage is the empty storage after a sequence of storage calls, and every
stored record's message lists exactly the keys of its vector. -/
theorem rpcPool_protoSync {rpcs : List Rpc} {schedule : List Nat}
    {p : Pool InMemoryStorage (Status × Reply)} (h : (rpcPool rpcs .empty).run schedule = some p) :
    (∃ ops, p.store = runOps ops .empty) ∧ ProtoSync p.store := by
  obtain ⟨ops, hops, -⟩ := Pool.run_performs (fun w hw => by
    obtain ⟨rpc, -, rfl⟩ := List.mem_map.mp hw
    exact rpc.performs_worker) h
  exact ⟨⟨ops, hops⟩, hops ▸ protoSync_empty.runOps ops⟩

/-- `AddProduct` and `DeleteProduct` of the new key on the empty storage, the delete
between the two calls of the add. -/
theorem rpcPool_protoSync_add_delete :
    ∃ p, (rpcPool [.addProduct ⟨some ⟨"p1", "Lamp", "", 0, 1, ["c1"]⟩, none, none⟩,
        .deleteProduct ⟨some (Product.withId "p1"), none, none⟩] .empty).run [0, 1, 0] = some p ∧
      (∃ ops, p.store = runOps ops .empty) ∧ ProtoSync p.store :=
  ⟨_, rfl, @rpcPool_protoSync [.addProduct ⟨some ⟨"p1", "Lamp", "", 0, 1, ["c1"]⟩, none, none⟩,
    .deleteProduct ⟨some (Product.withId "p1"), none, none⟩] [0, 1, 0] _ rfl⟩

/-- Serving the RPCs one at a time, each to its end, is one of the interleavings: it
leaves the storage that `runRpcs` gives, and every RPC answers as `Rpc.call` does on the
storage the RPCs before it left. -/
theorem rpcPool_serial (rpcs : List Rpc) (s : InMemoryStorage) :
    ∃ (schedule : List Nat) (p : Pool InMemoryStorage (Status × Reply)),
      (rpcPool rpcs s).run schedule = some p ∧ p.store = runRpcs rpcs s ∧
      ∀ (i : Nat) (rpc : Rpc), rpcs[i]? = some rpc →
        p.workers[i]? = some (.done (rpc.call (runRpcs (rpcs.take i) s)).1) :=
  Pool.run_serial _ _ Rpc.runAlone_worker rpcs s

/-! ## An `AddProduct` that reads back another RPC's delete -/

open EcommerceServiceImpl in
/-- A `DeleteProduct` of the key `AddProduct` stores under, scheduled between the two calls
of the add, answers `OK`, and the add answers `INTERNAL`; served one at a time, in
either order, the add answers `OK`. -/
theorem run_addProduct_deleteProduct {request request' : ProductRequest} {product victim : Product}
    (s : InMemoryStorage) (hadd : request.product = some product)
    (hdel : request'.product = some victim) (hvictim : victim.id = (s.addProduct product).1) :
    (rpcPool [.addProduct request, .deleteProduct request'] s).run [0, 1, 0] =
        some ⟨((s.addProduct product).2.deleteProduct victim.id).2,
          [.done (⟨.INTERNAL, "Failed to add product"⟩, .empty),
            .done (Status.ok, .product (Product.withId victim.id))]⟩ ∧
      ((Rpc.addProduct request).call s).1.1 = Status.ok ∧
      ((Rpc.addProduct request).call ((Rpc.deleteProduct request').call s).2).1.1 = Status.ok := by
  have hkey : (s.addProduct product).1 ≠ "" := by
    unfold InMemoryStorage.addProduct
    split
    · intro h
      have hlen := congrArg String.length h
      simp only [String.length_append, String.length_empty, Nat.add_eq_zero] at hlen
      exact absurd hlen.1 (by decide)
    · assumption
  obtain ⟨data, hdata⟩ : ∃ data, (s.addProduct product).2.products.lookup victim.id = some data := by
    rw [hvictim]
    exact ⟨_, AList.lookup_insert _⟩
  refine ⟨?_, ?_, ?_⟩
  · simp [rpcPool, Rpc.worker, addWorker, deleteWorker, Worker.single, Pool.run, Pool.step, hadd, hdel,
      ← hvictim, hvictim ▸ hkey, hdata, readBackAdded, InMemoryStorage.deleteProduct,
      InMemoryStorage.getProductById]
    rw [← hvictim, AList.lookup_erase]
    rfl
  all_goals
    simp only [Rpc.call, EcommerceServiceImpl.addProduct, hadd]
    exact addRecord_status (fun _ => InMemoryStorage.getProductById_addProduct _ _) product

/-- The race on the empty storage, for a product with the id `"p1"`. -/
theorem run_addProduct_deleteProduct_p1 :
    let product : Product := ⟨"p1", "Lamp", "", 0, 1, ["c1"]⟩
    (rpcPool [.addProduct ⟨some product, none, none⟩,
        .deleteProduct ⟨some (Product.withId "p1"), none, none⟩] .empty).run [0, 1, 0] =
        some ⟨((InMemoryStorage.empty.addProduct product).2.deleteProduct "p1").2,
          [.done (⟨.INTERNAL, "Failed to add product"⟩, .empty),
            .done (Status.ok, .product (Product.withId "p1"))]⟩ ∧
      ((Rpc.addProduct ⟨some product, none, none⟩).call .empty).1.1 = Status.ok ∧
      ((Rpc.addProduct ⟨some product, none, none⟩).call
        ((Rpc.deleteProduct ⟨some (Product.withId "p1"), none, none⟩).call .empty).2).1.1 = Status.ok :=
  @run_addProduct_deleteProduct ⟨some ⟨"p1", "Lamp", "", 0, 1, ["c1"]⟩, none, none⟩
    ⟨some (Product.withId "p1"), none, none⟩ ⟨"p1", "Lamp", "", 0, 1, ["c1"]⟩ (Product.withId "p1") .empty
    rfl rfl rfl

end ArchitectureCourse.Ecommerce
