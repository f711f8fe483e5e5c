import ArchitectureCourse.CppInt
import ArchitectureCourse.Support.Maps
import Mathlib.Data.List.AList
import Mathlib.Logic.Function.Iterate

/-!
# The e-commerce storage

`InMemoryStorage` of the gRPC server keeps two maps, products and categories.  Each
record holds its protobuf message and, beside it, a vector of the keys it is linked
to on the other side: a product's categories, a category's products.  The protobuf
message repeats the same keys (`category_ids`, `product_ids`), and every operation
that touches one of the two lists writes the other as well.

`AddProduct` and `AddCategory` make up a key `"prod_" + (size + 1)` or `"cat_" +
(size + 1)` when the record carries none.  `DeleteProduct` and `DeleteCategory` walk
the deleted record's links and remove its key from each linked record on the other
side.  Attaching and detaching edit both sides at once.

The `.proto` declaration of the messages is not part of the repository; the fields
below are those the server reads and writes, with `price` a `double`.
-/

namespace ArchitectureCourse.Ecommerce

/-- `ecommerce::Product`. -/
structure Product where
  id : String
  name : String
  description : String
  price : Float
  quantity : Int
  categoryIds : List String

/-- `ecommerce::Category`. -/
structure Category where
  id : String
  name : String
  productIds : List String

/-- `ProductData`: the message and the vector of category keys. -/
structure ProductData where
  product : Product
  categories : List String

/-- `CategoryData`: the message and the vector of product keys. -/
structure CategoryData where
  category : Category
  products : List String

/-- `InMemoryStorage`: `products_` and `categories_`. -/
structure InMemoryStorage where
  products : AList (fun _ : String => ProductData)
  categories : AList (fun _ : String => CategoryData)

/-- `ecommerce::ProductFilter`. -/
structure ProductFilter where
  maxPrice : Float

/-- `ecommerce::Pagination`, two `int32` fields. -/
structure Pagination where
  offset : Int
  limit : Int

namespace InMemoryStorage

/-- The storage the server starts with. -/
def empty : InMemoryStorage := ⟨∅, ∅⟩

/-- The loop of `DeleteProduct` and `DeleteCategory` over the deleted record's links:
each listed key present in the other map has its record rewritten by `f`. -/
def updateEach {D : Type} (m : AList (fun _ : String => D)) (f : D → D) (keys : List String) :
    AList (fun _ : String => D) :=
  keys.foldl (fun m key =>
    match m.lookup key with
    | some d => m.insert key (f d)
    | none => m) m

/-- A category without the product `id`: `erase(remove(...))` on the vector, then the
message's list rebuilt from it. -/
def CategoryData.removeProduct (id : String) (data : CategoryData) : CategoryData :=
  let products := data.products.filter (· != id)
  ⟨{ data.category with productIds := products }, products⟩

/-- A product without the category `id`, likewise. -/
def ProductData.removeCategory (id : String) (data : ProductData) : ProductData :=
  let categories := data.categories.filter (· != id)
  ⟨{ data.product with categoryIds := categories }, categories⟩

/-- `AddProduct`: the key is the product's own id, or `"prod_" + (size + 1)` when it
has none; the record is stored under it, replacing any record there. -/
def addProduct (s : InMemoryStorage) (product : Product) : String × InMemoryStorage :=
  let generated := "prod_" ++ toString (s.products.entries.length + 1)
  let id := if product.id = "" then generated else product.id
  let stored := if product.id = "" then { product with id := generated } else product
  (id, { s with products := s.products.insert id ⟨stored, product.categoryIds⟩ })

/-- `EditProduct`: the scalar fields and the category list are replaced. -/
def editProduct (s : InMemoryStorage) (product : Product) : Bool × InMemoryStorage :=
  if product.id = "" then (false, s)
  else
    match s.products.lookup product.id with
    | none => (false, s)
    | some data =>
      let edited : Product :=
        { data.product with
          name := product.name
          description := product.description
          price := product.price
          quantity := product.quantity
          categoryIds := product.categoryIds }
      (true, { s with products := s.products.insert product.id ⟨edited, product.categoryIds⟩ })

/-- `DeleteProduct`. -/
def deleteProduct (s : InMemoryStorage) (id : String) : Bool × InMemoryStorage :=
  match s.products.lookup id with
  | none => (false, s)
  | some data =>
    (true, ⟨s.products.erase id,
      updateEach s.categories (CategoryData.removeProduct id) data.categories⟩)

/-- Two products added without an id, the first one deleted: the next product added
without an id gets the key `"prod_2"`, which is still stored, and replaces it. -/
theorem addProduct_reuses_stored_key :
    let p : Product := ⟨"", "", "", 0, 0, []⟩
    let s := ((((empty.addProduct p).2.addProduct p).2.deleteProduct "prod_1").2)
    (s.addProduct p).1 = "prod_2" ∧ (s.products.lookup "prod_2").isSome = true ∧
      (s.addProduct p).2.products.entries.length = s.products.entries.length := by
  decide

/-- `AddCategory`, as `AddProduct` with the prefix `"cat_"`. -/
def addCategory (s : InMemoryStorage) (category : Category) : String × InMemoryStorage :=
  let generated := "cat_" ++ toString (s.categories.entries.length + 1)
  let id := if category.id = "" then generated else category.id
  let stored := if category.id = "" then { category with id := generated } else category
  (id, { s with categories := s.categories.insert id ⟨stored, category.productIds⟩ })

/-- `EditCategory`: the name and the product list are replaced. -/
def editCategory (s : InMemoryStorage) (category : Category) : Bool × InMemoryStorage :=
  if category.id = "" then (false, s)
  else
    match s.categories.lookup category.id with
    | none => (false, s)
    | some data =>
      let edited : Category :=
        { data.category with name := category.name, productIds := category.productIds }
      (true, { s with categories := s.categories.insert category.id ⟨edited, category.productIds⟩ })

/-- `DeleteCategory`. -/
def deleteCategory (s : InMemoryStorage) (id : String) : Bool × InMemoryStorage :=
  match s.categories.lookup id with
  | none => (false, s)
  | some data =>
    (true, ⟨updateEach s.products (ProductData.removeCategory id) data.products,
      s.categories.erase id⟩)

/-- `AttachProductToCategory`: nothing changes when the product already lists the
category; otherwise each side gets the other's key appended. -/
def attachProductToCategory (s : InMemoryStorage) (productId categoryId : String) :
    Bool × InMemoryStorage :=
  match s.products.lookup productId, s.categories.lookup categoryId with
  | some prod, some cat =>
    if categoryId ∈ prod.categories then (true, s)
    else
      let prod' : ProductData :=
        ⟨{ prod.product with categoryIds := prod.product.categoryIds ++ [categoryId] },
          prod.categories ++ [categoryId]⟩
      let cat' : CategoryData :=
        ⟨{ cat.category with productIds := cat.category.productIds ++ [productId] },
          cat.products ++ [productId]⟩
      (true, ⟨s.products.insert productId prod', s.categories.insert categoryId cat'⟩)
  | _, _ => (false, s)

/-- `DetachProductFromCategory`: the first occurrence of each key is erased from the
other side's vector, and that side's message is rebuilt from the vector. -/
def detachProductFromCategory (s : InMemoryStorage) (productId categoryId : String) :
    Bool × InMemoryStorage :=
  match s.products.lookup productId, s.categories.lookup categoryId with
  | some prod, some cat =>
    let prod' : ProductData :=
      if categoryId ∈ prod.categories then
        let categories := prod.categories.erase categoryId
        ⟨{ prod.product with categoryIds := categories }, categories⟩
      else prod
    let cat' : CategoryData :=
      if productId ∈ cat.products then
        let products := cat.products.erase productId
        ⟨{ cat.category with productIds := products }, products⟩
      else cat
    (true, ⟨s.products.insert productId prod', s.categories.insert categoryId cat'⟩)
  | _, _ => (false, s)

/-- The pagination of `GetAllProducts` and `GetAllCategories`, in `int` arithmetic,
with the end index cast to `size_t`. -/
def paginate {α : Type} (pagination : Pagination) (result : List α) : List α :=
  let size := wrapInt32 result.length
  let offset := if pagination.offset < 0 then 0 else pagination.offset
  if offset ≥ size then []
  else
    let limit := if pagination.limit ≤ 0 then wrapInt32 (size - offset) else pagination.limit
    let stop := min result.length (toSizeT (wrapInt32 (offset + limit)))
    (result.take stop).drop offset.toNat

/-- `GetAllProducts`: the products within the price filter, in the map's order, then
paginated. -/
def getAllProducts (s : InMemoryStorage) (filter : ProductFilter) (pagination : Pagination) :
    List Product :=
  paginate pagination <| (s.products.entries.map (·.2.product)).filter fun p =>
    !(decide (filter.maxPrice > 0) && decide (p.price > filter.maxPrice))

/-- `GetAllCategories`. -/
def getAllCategories (s : InMemoryStorage) (pagination : Pagination) : List Category :=
  paginate pagination (s.categories.entries.map (·.2.category))

/-- `GetProductById`. -/
def getProductById (s : InMemoryStorage) (id : String) : Option Product :=
  (s.products.lookup id).map (·.product)

/-- `GetCategoryById`. -/
def getCategoryById (s : InMemoryStorage) (id : String) : Option Category :=
  (s.categories.lookup id).map (·.category)

end InMemoryStorage

/-- A call on the storage. -/
inductive StorageOp where
  | addProduct (product : Product)
  | editProduct (product : Product)
  | deleteProduct (id : String)
  | addCategory (category : Category)
  | editCategory (category : Category)
  | deleteCategory (id : String)
  | attachProductToCategory (productId categoryId : String)
  | detachProductFromCategory (productId categoryId : String)
  | getAllProducts (filter : ProductFilter) (pagination : Pagination)
  | getAllCategories (pagination : Pagination)
  | getProductById (id : String)
  | getCategoryById (id : String)

namespace StorageOp

open InMemoryStorage

/-- The storage after a call; the four reads leave it as it is. -/
def apply : StorageOp → InMemoryStorage → InMemoryStorage
  | addProduct p, s => (s.addProduct p).2
  | editProduct p, s => (s.editProduct p).2
  | deleteProduct id, s => (s.deleteProduct id).2
  | addCategory c, s => (s.addCategory c).2
  | editCategory c, s => (s.editCategory c).2
  | deleteCategory id, s => (s.deleteCategory id).2
  | attachProductToCategory p c, s => (s.attachProductToCategory p c).2
  | detachProductFromCategory p c, s => (s.detachProductFromCategory p c).2
  | getAllProducts _ _, s | getAllCategories _, s | getProductById _, s | getCategoryById _, s => s

end StorageOp

/-- The storage after a sequence of calls. -/
def runOps (ops : List StorageOp) (s : InMemoryStorage) : InMemoryStorage :=
  ops.foldl (fun s op => op.apply s) s

/-! ## What the calls answer -/

namespace InMemoryStorage

theorem getProductById_addProduct (s : InMemoryStorage) (product : Product) :
    ((s.addProduct product).2.getProductById (s.addProduct product).1).isSome := by
  simp [addProduct, getProductById]

theorem getCategoryById_addCategory (s : InMemoryStorage) (category : Category) :
    ((s.addCategory category).2.getCategoryById (s.addCategory category).1).isSome := by
  simp [addCategory, getCategoryById]

theorem editProduct_eq_false {s s' : InMemoryStorage} {product : Product}
    (h : s.editProduct product = (false, s')) : s' = s := by
  unfold editProduct at h
  split_ifs at h
  · cases h
    rfl
  · split at h <;> cases h
    rfl

theorem editProduct_eq_true {s s' : InMemoryStorage} {product : Product}
    (h : s.editProduct product = (true, s')) : (s'.getProductById product.id).isSome := by
  unfold editProduct at h
  split_ifs at h
  · cases h
  · split at h <;> cases h
    simp [getProductById]

theorem editCategory_eq_false {s s' : InMemoryStorage} {category : Category}
    (h : s.editCategory category = (false, s')) : s' = s := by
  unfold editCategory at h
  split_ifs at h
  · cases h
    rfl
  · split at h <;> cases h
    rfl

theorem editCategory_eq_true {s s' : InMemoryStorage} {category : Category}
    (h : s.editCategory category = (true, s')) : (s'.getCategoryById category.id).isSome := by
  unfold editCategory at h
  split_ifs at h
  · cases h
  · split at h <;> cases h
    simp [getCategoryById]

theorem deleteProduct_eq_false {s s' : InMemoryStorage} {id : String}
    (h : s.deleteProduct id = (false, s')) : s' = s := by
  unfold deleteProduct at h
  split at h <;> cases h
  rfl

theorem deleteCategory_eq_false {s s' : InMemoryStorage} {id : String}
    (h : s.deleteCategory id = (false, s')) : s' = s := by
  unfold deleteCategory at h
  split at h <;> cases h
  rfl

theorem attachProductToCategory_eq_false {s s' : InMemoryStorage} {productId categoryId : String}
    (h : s.attachProductToCategory productId categoryId = (false, s')) : s' = s := by
  unfold attachProductToCategory at h
  split at h
  · split_ifs at h <;> cases h
  · cases h
    rfl

theorem attachProductToCategory_eq_true {s s' : InMemoryStorage} {productId categoryId : String}
    (h : s.attachProductToCategory productId categoryId = (true, s')) :
    (s'.getCategoryById categoryId).isSome := by
  unfold attachProductToCategory at h
  split at h
  next prod cat _ hc =>
    split_ifs at h <;> cases h
    · simp [getCategoryById, hc]
    · simp [getCategoryById]
  · cases h

theorem detachProductFromCategory_eq_false {s s' : InMemoryStorage} {productId categoryId : String}
    (h : s.detachProductFromCategory productId categoryId = (false, s')) : s' = s := by
  unfold detachProductFromCategory at h
  split at h
  · cases h
  · cases h
    rfl

theorem detachProductFromCategory_eq_true {s s' : InMemoryStorage} {productId categoryId : String}
    (h : s.detachProductFromCategory productId categoryId = (true, s')) :
    (s'.getCategoryById categoryId).isSome := by
  unfold detachProductFromCategory at h
  split at h
  · cases h
    simp [getCategoryById]
  · cases h

end InMemoryStorage

/-! ## Lookups after an update -/

namespace InMemoryStorage

variable {D : Type}

/-- After the loop, a record has been rewritten once per occurrence of its key. -/
theorem lookup_updateEach (m : AList (fun _ : String => D)) (f : D → D) (keys : List String)
    (k : String) : (updateEach m f keys).lookup k = (m.lookup k).map (f^[keys.count k]) := by
  induction keys generalizing m with
  | nil => simp [updateEach]
  | cons key keys ih =>
    have hstep : updateEach m f (key :: keys) =
        updateEach (match m.lookup key with | some d => m.insert key (f d) | none => m) f keys := rfl
    rw [hstep, ih]
    by_cases hk : k = key
    · subst hk
      cases hl : m.lookup k <;> simp [hl, List.count_cons, Function.iterate_succ_apply]
    · have hne : (key == k) = false := by simpa using Ne.symm hk
      cases hl : m.lookup key <;> simp [AList.lookup_insert_ne hk, List.count_cons, hne]

theorem forall_lookup_updateEach {P : D → Prop} {m : AList (fun _ : String => D)} {f : D → D}
    (keys : List String) (hf : ∀ d, P d → P (f d)) (hm : ∀ x e, m.lookup x = some e → P e) :
    ∀ x e, (updateEach m f keys).lookup x = some e → P e := by
  intro x e hx
  rw [lookup_updateEach, Option.map_eq_some'] at hx
  obtain ⟨d, hd, rfl⟩ := hx
  exact Function.Iterate.rec P hf (hm x d hd) _

end InMemoryStorage

/-! ## Messages and vectors agree -/

open InMemoryStorage

/-- Every stored record's message lists exactly the keys of its vector, in order. -/
structure ProtoSync (s : InMemoryStorage) : Prop where
  products : ∀ id d, s.products.lookup id = some d → d.product.categoryIds = d.categories
  categories : ∀ id d, s.categories.lookup id = some d → d.category.productIds = d.products

theorem protoSync_empty : ProtoSync InMemoryStorage.empty :=
  ⟨fun _ _ h => by simp [InMemoryStorage.empty] at h, fun _ _ h => by simp [InMemoryStorage.empty] at h⟩

/-- Each call keeps messages and vectors in step. -/
theorem ProtoSync.apply {s : InMemoryStorage} (h : ProtoSync s) (op : StorageOp) :
    ProtoSync (op.apply s) := by
  cases op with
  | addProduct p =>
    simp only [StorageOp.apply, addProduct]
    refine ⟨forall_lookup_insert ?_ h.products, h.categories⟩
    by_cases hp : p.id = "" <;> simp [hp]
  | editProduct p =>
    simp only [StorageOp.apply, editProduct]
    split
    · exact h
    · split
      · exact h
      · exact ⟨forall_lookup_insert rfl h.products, h.categories⟩
  | deleteProduct id =>
    simp only [StorageOp.apply, deleteProduct]
    split
    · exact h
    · exact ⟨forall_lookup_erase _ h.products, forall_lookup_updateEach _ (fun _ _ => rfl) h.categories⟩
  | addCategory c =>
    simp only [StorageOp.apply, addCategory]
    refine ⟨h.products, forall_lookup_insert ?_ h.categories⟩
    by_cases hc : c.id = "" <;> simp [hc]
  | editCategory c =>
    simp only [StorageOp.apply, editCategory]
    split
    · exact h
    · split
      · exact h
      · exact ⟨h.products, forall_lookup_insert rfl h.categories⟩
  | deleteCategory id =>
    simp only [StorageOp.apply, deleteCategory]
    split
    · exact h
    · exact ⟨forall_lookup_updateEach _ (fun _ _ => rfl) h.products, forall_lookup_erase _ h.categories⟩
  | attachProductToCategory productId categoryId =>
    simp only [StorageOp.apply, attachProductToCategory]
    split
    · next prod cat hp hc =>
      split
      · exact h
      · exact ⟨forall_lookup_insert (by simp [h.products _ _ hp]) h.products,
          forall_lookup_insert (by simp [h.categories _ _ hc]) h.categories⟩
    · exact h
  | detachProductFromCategory productId categoryId =>
    simp only [StorageOp.apply, detachProductFromCategory]
    split
    · next prod cat hp hc =>
      refine ⟨forall_lookup_insert ?_ h.products, forall_lookup_insert ?_ h.categories⟩
      · split
        · rfl
        · exact h.products _ _ hp
      · split
        · rfl
        · exact h.categories _ _ hc
    · exact h
  | getAllProducts _ _ | getAllCategories _ | getProductById _ | getCategoryById _ => exact h

theorem ProtoSync.runOps {s : InMemoryStorage} (h : ProtoSync s) (ops : List StorageOp) :
    ProtoSync (runOps ops s) := by
  induction ops generalizing s with
  | nil => exact h
  | cons op ops ih => exact ih (h.apply op)

/-- From the empty storage, through every sequence of calls, each stored message lists
the same keys as its record's vector: the same elements, order and multiplicity. -/
theorem storage_protoSync (ops : List StorageOp) : ProtoSync (runOps ops InMemoryStorage.empty) :=
  protoSync_empty.runOps ops

/-! ## Pages -/

namespace InMemoryStorage

theorem min_toSizeT_wrapInt32 {n : Nat} {x : Int} (hn : n < 2 ^ 31) (hx0 : 0 ≤ x) (hx : x < 2 ^ 32) :
    min n (toSizeT (wrapInt32 x)) = (min (n : Int) x).toNat := by
  unfold toSizeT wrapInt32
  omega

/-- On fewer than `2^31` records and an `int32` limit, a page is the records at the
positions `[o, min(n, o + L))`, with `o` the offset clamped at 0 and `L` the limit, or
all that remain after `o` when the limit is not positive.  An `offset + limit` past
`INT_MAX` wraps to a negative `int`, which the cast to `size_t` makes larger than any
size, so the wrapped end is still the size. -/
theorem paginate_eq_slice {α : Type} (pagination : Pagination) (result : List α)
    (hlimit : pagination.limit < 2 ^ 31) (hsize : result.length < 2 ^ 31) :
    let o := max pagination.offset 0
    let L := if 0 < pagination.limit then pagination.limit else result.length - o
    paginate pagination result = (result.take (min (result.length : Int) (o + L)).toNat).drop o.toNat := by
  intro o L
  have hwrap : wrapInt32 result.length = result.length := wrapInt32_eq_self (by omega) (by omega)
  have ho : (if pagination.offset < 0 then 0 else pagination.offset) = o := by
    simp only [o]
    split <;> omega
  unfold paginate
  simp only [hwrap, ho]
  split
  next hge => rw [List.drop_eq_nil_of_le (by simp; omega)]
  next hlt =>
    have hL : (if pagination.limit ≤ 0 then wrapInt32 (result.length - o) else pagination.limit) = L := by
      simp only [L]
      split
      · rw [if_neg (by omega)]
        exact wrapInt32_eq_self (by omega) (by omega)
      · rw [if_pos (by omega)]
    have hsum : 0 ≤ o + L ∧ o + L < 2 ^ 32 := by
      simp only [L]
      split <;> omega
    rw [hL, min_toSizeT_wrapInt32 hsize hsum.1 hsum.2]

/-- Offset 1 and limit `INT_MAX` on two records or more: neither early return is taken,
so `offset + limit` is evaluated, and it is `2^31`, one past `INT_MAX`.  The page is the
records from position 1 on. -/
theorem paginate_offset_limit_overflow {α : Type} (result : List α) (htwo : 2 ≤ result.length)
    (hsize : result.length < 2 ^ 31) :
    let pagination : Pagination := ⟨1, 2147483647⟩
    ¬ pagination.offset ≥ wrapInt32 result.length ∧ ¬ pagination.limit ≤ 0 ∧
      2 ^ 31 ≤ pagination.offset + pagination.limit ∧ paginate pagination result = result.drop 1 := by
  intro pagination
  have hwrap : wrapInt32 result.length = result.length := wrapInt32_eq_self (by omega) (by omega)
  refine ⟨by simp only [pagination, hwrap]; omega, by decide, by decide, ?_⟩
  have hstop : min (result.length : Int) (max 1 0 + 2147483647) = result.length := by omega
  rw [paginate_eq_slice pagination result (by decide) hsize]
  simp only [pagination, if_pos (show (0 : Int) < 2147483647 by decide), hstop, Int.toNat_natCast,
    List.take_length]
  rfl

/-- Two products, offset 1 and limit `INT_MAX`: the overflowing sum is evaluated, and
the page is the second product. -/
theorem paginate_offset_limit_overflow_two :
    let p : Product := ⟨"prod_1", "", "", 0, 0, []⟩
    let q : Product := ⟨"prod_2", "", "", 0, 0, []⟩
    2 ≤ [p, q].length ∧ [p, q].length < 2 ^ 31 ∧
      (¬ (1 : Int) ≥ wrapInt32 [p, q].length ∧ ¬ (2147483647 : Int) ≤ 0 ∧ 2 ^ 31 ≤ (1 : Int) + 2147483647 ∧
        paginate ⟨1, 2147483647⟩ [p, q] = [p, q].drop 1) ∧
      paginate ⟨1, 2147483647⟩ [p, q] = [q] := by
  intro p q
  have h := paginate_offset_limit_overflow [p, q] (by decide) (by decide)
  exact ⟨by decide, by decide, h, h.2.2.2⟩

end InMemoryStorage

end ArchitectureCourse.Ecommerce
