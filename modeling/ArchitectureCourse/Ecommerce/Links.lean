import ArchitectureCourse.Ecommerce.Storage

/-!
# Two-way links between products and categories

Seen from its links, the storage is two partial maps from keys to key lists: a
product's categories and a category's products.  `Linked` is the consistency one
expects of them: the two sides agree, no list names a key that is not stored, and no
list repeats a key.

The four ways the storage changes links are stated once over a generic pair of sides:
adding a record with no links under a free key, linking, unlinking, and removing a
record together with its key from the other side.  `Linked.swap` turns each into its
mirror image, so that `DeleteCategory` reuses what is shown for `DeleteProduct`.

Attach, detach and the two deletes keep `Linked` from every consistent state.  The
adds and edits copy a client's key list into one side only: they keep it when the
list is empty (an add under a free key) or unchanged (an edit), and break it otherwise.
-/

namespace ArchitectureCourse.Ecommerce

open Function

/-- Consistent two-way links between sides `A` and `B`, each mapping a stored key to the
keys it links to on the other side. -/
structure Linked (A B : String → Option (List String)) : Prop where
  symm : ∀ a b as bs, A a = some as → B b = some bs → (b ∈ as ↔ a ∈ bs)
  refsA : ∀ a as, A a = some as → ∀ b ∈ as, (B b).isSome
  refsB : ∀ b bs, B b = some bs → ∀ a ∈ bs, (A a).isSome
  nodupA : ∀ a as, A a = some as → as.Nodup
  nodupB : ∀ b bs, B b = some bs → bs.Nodup

namespace Linked

variable {A B : String → Option (List String)} {a b : String} {as bs : List String}

theorem swap (h : Linked A B) : Linked B A :=
  ⟨fun b a bs as hb ha => (h.symm a b as bs ha hb).symm, h.refsB, h.refsA, h.nodupB, h.nodupA⟩

/-- Reading an updated side: the new value at the updated key, the old one elsewhere. -/
theorem update_eq_some {f : String → Option (List String)} {x y : String}
    {o : Option (List String)} {v : List String} (h : update f x o y = some v) :
    (y = x ∧ o = some v) ∨ (y ≠ x ∧ f y = some v) := by
  by_cases hy : y = x
  · subst hy
    exact .inl ⟨rfl, by simpa using h⟩
  · exact .inr ⟨hy, by simpa [hy] using h⟩

theorem update_none_eq_some {f : String → Option (List String)} {x y : String} {v : List String}
    (h : update f x none y = some v) : y ≠ x ∧ f y = some v :=
  (update_eq_some h).resolve_left (by simp)

theorem isSome_update {f : String → Option (List String)} {x y : String} {l : List String}
    (hy : (f y).isSome ∨ y = x) : (update f x (some l) y).isSome := by
  by_cases h : y = x
  · subst h
    simp
  · simpa [h] using hy

/-- A new record with no links, under a key not stored. -/
theorem insertFresh (h : Linked A B) (ha : A a = none) : Linked (update A a (some [])) B where
  symm x y xs ys hx hy := by
    rcases update_eq_some hx with ⟨rfl, ⟨⟩⟩ | ⟨-, hx⟩
    · simp only [List.not_mem_nil, false_iff]
      exact fun hm => by simpa [ha] using h.refsB y ys hy _ hm
    · exact h.symm x y xs ys hx hy
  refsA x xs hx y hy := by
    rcases update_eq_some hx with ⟨rfl, ⟨⟩⟩ | ⟨-, hx⟩
    · cases hy
    · exact h.refsA x xs hx y hy
  refsB y ys hy x hx := isSome_update (.inl (h.refsB y ys hy x hx))
  nodupA x xs hx := by
    rcases update_eq_some hx with ⟨rfl, ⟨⟩⟩ | ⟨-, hx⟩
    · exact List.nodup_nil
    · exact h.nodupA x xs hx
  nodupB := h.nodupB

/-- `a` and `b`, not yet linked, each get the other appended. -/
theorem link (h : Linked A B) (ha : A a = some as) (hb : B b = some bs) (hnot : b ∉ as) :
    Linked (update A a (some (as ++ [b]))) (update B b (some (bs ++ [a]))) where
  symm x y xs ys hx hy := by
    rcases update_eq_some hx with ⟨rfl, ⟨⟩⟩ | ⟨hxa, hx₀⟩ <;>
      rcases update_eq_some hy with ⟨rfl, ⟨⟩⟩ | ⟨hyb, hy₀⟩
    · simp
    · simp [hyb, h.symm _ _ _ _ ha hy₀]
    · simp [hxa, h.symm _ _ _ _ hx₀ hb]
    · exact h.symm x y xs ys hx₀ hy₀
  refsA x xs hx y hy := by
    rcases update_eq_some hx with ⟨rfl, ⟨⟩⟩ | ⟨-, hx⟩
    · exact isSome_update ((List.mem_append.mp hy).imp (h.refsA _ _ ha y) List.mem_singleton.mp)
    · exact isSome_update (.inl (h.refsA x xs hx y hy))
  refsB y ys hy x hx := by
    rcases update_eq_some hy with ⟨rfl, ⟨⟩⟩ | ⟨-, hy⟩
    · exact isSome_update ((List.mem_append.mp hx).imp (h.refsB _ _ hb x) List.mem_singleton.mp)
    · exact isSome_update (.inl (h.refsB y ys hy x hx))
  nodupA x xs hx := by
    rcases update_eq_some hx with ⟨rfl, ⟨⟩⟩ | ⟨-, hx⟩
    · exact (h.nodupA _ _ ha).append (List.nodup_singleton b) (by simpa using hnot)
    · exact h.nodupA x xs hx
  nodupB y ys hy := by
    rcases update_eq_some hy with ⟨rfl, ⟨⟩⟩ | ⟨-, hy⟩
    · have hab : a ∉ bs := fun hm => hnot ((h.symm _ _ _ _ ha hb).mpr hm)
      exact (h.nodupB _ _ hb).append (List.nodup_singleton a) (by simpa using hab)
    · exact h.nodupB y ys hy

/-- `a` and `b` each lose the other; nothing happens to a side that did not list it. -/
theorem unlink (h : Linked A B) (ha : A a = some as) (hb : B b = some bs) :
    Linked (update A a (some (as.erase b))) (update B b (some (bs.erase a))) where
  symm x y xs ys hx hy := by
    rcases update_eq_some hx with ⟨rfl, ⟨⟩⟩ | ⟨hxa, hx₀⟩ <;>
      rcases update_eq_some hy with ⟨rfl, ⟨⟩⟩ | ⟨hyb, hy₀⟩
    · simp [(h.nodupA _ _ ha).mem_erase_iff, (h.nodupB _ _ hb).mem_erase_iff]
    · simp [(h.nodupA _ _ ha).mem_erase_iff, hyb, h.symm _ _ _ _ ha hy₀]
    · simp [(h.nodupB _ _ hb).mem_erase_iff, hxa, h.symm _ _ _ _ hx₀ hb]
    · exact h.symm x y xs ys hx₀ hy₀
  refsA x xs hx y hy := by
    rcases update_eq_some hx with ⟨rfl, ⟨⟩⟩ | ⟨-, hx⟩
    · exact isSome_update (.inl (h.refsA _ _ ha y (List.mem_of_mem_erase hy)))
    · exact isSome_update (.inl (h.refsA x xs hx y hy))
  refsB y ys hy x hx := by
    rcases update_eq_some hy with ⟨rfl, ⟨⟩⟩ | ⟨-, hy⟩
    · exact isSome_update (.inl (h.refsB _ _ hb x (List.mem_of_mem_erase hx)))
    · exact isSome_update (.inl (h.refsB y ys hy x hx))
  nodupA x xs hx := by
    rcases update_eq_some hx with ⟨rfl, ⟨⟩⟩ | ⟨-, hx⟩
    · exact (h.nodupA _ _ ha).erase b
    · exact h.nodupA x xs hx
  nodupB y ys hy := by
    rcases update_eq_some hy with ⟨rfl, ⟨⟩⟩ | ⟨-, hy⟩
    · exact (h.nodupB _ _ hb).erase a
    · exact h.nodupB y ys hy

/-- The record `a` goes, and `a` goes from every list of the other side. -/
theorem remove (h : Linked A B) :
    Linked (update A a none) (fun y => (B y).map (·.filter (· != a))) where
  symm x y xs ys hx hy := by
    obtain ⟨hxa, hx⟩ := update_none_eq_some hx
    obtain ⟨ys₀, hy₀, rfl⟩ := Option.map_eq_some'.mp hy
    simp [h.symm x y xs ys₀ hx hy₀, hxa]
  refsA x xs hx y hy := by
    simpa using h.refsA x xs (update_none_eq_some hx).2 y hy
  refsB y ys hy x hx := by
    obtain ⟨ys₀, hy₀, rfl⟩ := Option.map_eq_some'.mp hy
    obtain ⟨hx₀, hxa⟩ := List.mem_filter.mp hx
    rw [update_noteq (by simpa using hxa)]
    exact h.refsB y ys₀ hy₀ x hx₀
  nodupA x xs hx := h.nodupA x xs (update_none_eq_some hx).2
  nodupB y ys hy := by
    obtain ⟨ys₀, hy₀, rfl⟩ := Option.map_eq_some'.mp hy
    exact (h.nodupB y ys₀ hy₀).filter _

end Linked

/-! ## The storage's two sides -/

namespace InMemoryStorage

/-- One side of the storage: each stored key with the key list `f` reads from its
record. -/
def links {D : Type} (m : AList (fun _ : String => D)) (f : D → List String) :
    String → Option (List String) :=
  fun x => (m.lookup x).map f

/-- A product's categories, by product key. -/
def productLinks (s : InMemoryStorage) : String → Option (List String) :=
  links s.products ProductData.categories

/-- A category's products, by category key. -/
def categoryLinks (s : InMemoryStorage) : String → Option (List String) :=
  links s.categories CategoryData.products

variable {D : Type} (f : D → List String)

theorem links_insert (m : AList (fun _ : String => D)) (k : String) (d : D) :
    links (m.insert k d) f = update (links m f) k (some (f d)) := by
  funext x
  by_cases h : x = k
  · subst h
    simp [links]
  · simp [links, update_noteq h, AList.lookup_insert_ne h]

theorem links_erase (m : AList (fun _ : String => D)) (k : String) :
    links (m.erase k) f = update (links m f) k none := by
  funext x
  by_cases h : x = k
  · subst h
    simp [links, AList.lookup_erase]
  · simp [links, update_noteq h, AList.lookup_erase_ne h]

theorem productLinks_insert (s : InMemoryStorage) (k : String) (r : ProductData) :
    productLinks { s with products := s.products.insert k r } =
      update (productLinks s) k (some r.categories) :=
  links_insert _ _ _ _

theorem categoryLinks_insert (s : InMemoryStorage) (k : String) (r : CategoryData) :
    categoryLinks { s with categories := s.categories.insert k r } =
      update (categoryLinks s) k (some r.products) :=
  links_insert _ _ _ _

/-- A detach erases a key from a list whether or not the list holds it. -/
theorem ite_mem_erase (l : List String) (k : String) : (if k ∈ l then l.erase k else l) = l.erase k := by
  split
  · rfl
  · exact (List.erase_of_not_mem ‹_›).symm

/-- Removing a key `n` times from a record's list is removing it once, or not at all. -/
theorem iterate_remove {g : D → D} {a : String} (hg : ∀ d, f (g d) = (f d).filter (· != a))
    (n : Nat) (d : D) : f (g^[n] d) = if n = 0 then f d else (f d).filter (· != a) := by
  induction n with
  | zero => rfl
  | succ n ih =>
    rw [iterate_succ_apply', hg, ih]
    split <;> simp [List.filter_filter]

/-- The loop of a delete, on the other side of consistent links: the deleted key `a`
goes from every list. -/
theorem links_updateEach {A : String → Option (List String)} {m : AList (fun _ : String => D)}
    {g : D → D} {a : String} {as : List String} (h : Linked A (links m f)) (ha : A a = some as)
    (hg : ∀ d, f (g d) = (f d).filter (· != a)) :
    links (updateEach m g as) f = fun y => (links m f y).map (·.filter (· != a)) := by
  funext y
  simp only [links, lookup_updateEach, Option.map_map]
  cases hy : m.lookup y with
  | none => rfl
  | some d =>
    simp only [Option.map_some', Function.comp_apply, Option.some.injEq, iterate_remove f hg]
    split
    · next hc =>
      have hya : y ∉ as := List.count_eq_zero.mp hc
      have had : a ∉ f d := fun hm =>
        hya ((h.symm a y as (f d) ha (by simp [links, hy])).mpr hm)
      exact (List.filter_eq_self.mpr fun x hx => by simpa using ne_of_mem_of_not_mem hx had).symm
    · rfl

end InMemoryStorage

open InMemoryStorage

/-- The calls that keep the links consistent: every call but an add or an edit; an add
whose record lists no keys and whose key is not yet stored; an edit that keeps the
record's stored list. -/
def StorageOp.keepsLinks (s : InMemoryStorage) : StorageOp → Prop
  | .addProduct p => p.categoryIds = [] ∧ s.products.lookup (s.addProduct p).1 = none
  | .editProduct p => ∀ d, s.products.lookup p.id = some d → p.categoryIds = d.categories
  | .addCategory c => c.productIds = [] ∧ s.categories.lookup (s.addCategory c).1 = none
  | .editCategory c => ∀ d, s.categories.lookup c.id = some d → c.productIds = d.products
  | _ => True

/-- A sequence of calls each of which keeps the links, in the state it is made in. -/
def KeepsLinksRun : InMemoryStorage → List StorageOp → Prop
  | _, [] => True
  | s, op :: ops => op.keepsLinks s ∧ KeepsLinksRun (op.apply s) ops

theorem linked_empty : Linked (productLinks .empty) (categoryLinks .empty) := by
  constructor <;> simp [productLinks, categoryLinks, links, InMemoryStorage.empty]

/-- Every call that keeps the links keeps them from every consistent state. -/
theorem linked_apply {s : InMemoryStorage} (h : Linked (productLinks s) (categoryLinks s))
    (op : StorageOp) (hk : op.keepsLinks s) :
    Linked (productLinks (op.apply s)) (categoryLinks (op.apply s)) := by
  cases op with
  | addProduct p =>
    obtain ⟨hnil, hfree⟩ := hk
    have hA : productLinks s (s.addProduct p).1 = none := by simp [productLinks, links, hfree]
    have hv : productLinks (s.addProduct p).2 =
        update (productLinks s) (s.addProduct p).1 (some p.categoryIds) :=
      links_insert _ _ _ _
    rw [StorageOp.apply, hv, hnil]
    exact h.insertFresh hA
  | editProduct p =>
    simp only [StorageOp.apply, editProduct]
    split
    · exact h
    · split
      · exact h
      · next d hd =>
        have hv : productLinks s p.id = some d.categories := by simp [productLinks, links, hd]
        rw [productLinks_insert]
        simp only [hk d hd, ← hv, update_eq_self]
        exact h
  | deleteProduct id =>
    simp only [StorageOp.apply, deleteProduct]
    split
    · exact h
    · next d hd =>
      have ha : productLinks s id = some d.categories := by simp [productLinks, links, hd]
      rw [productLinks, categoryLinks, links_erase,
        links_updateEach _ h ha fun _ => rfl]
      exact h.remove
  | addCategory c =>
    obtain ⟨hnil, hfree⟩ := hk
    have hB : categoryLinks s (s.addCategory c).1 = none := by simp [categoryLinks, links, hfree]
    have hv : categoryLinks (s.addCategory c).2 =
        update (categoryLinks s) (s.addCategory c).1 (some c.productIds) :=
      links_insert _ _ _ _
    rw [StorageOp.apply, hv, hnil]
    exact (h.swap.insertFresh hB).swap
  | editCategory c =>
    simp only [StorageOp.apply, editCategory]
    split
    · exact h
    · split
      · exact h
      · next d hd =>
        have hv : categoryLinks s c.id = some d.products := by simp [categoryLinks, links, hd]
        rw [categoryLinks_insert]
        simp only [hk d hd, ← hv, update_eq_self]
        exact h
  | deleteCategory id =>
    simp only [StorageOp.apply, deleteCategory]
    split
    · exact h
    · next d hd =>
      have hb : categoryLinks s id = some d.products := by simp [categoryLinks, links, hd]
      rw [productLinks, categoryLinks, links_erase,
        links_updateEach _ h.swap hb fun _ => rfl]
      exact h.swap.remove.swap
  | attachProductToCategory productId categoryId =>
    simp only [StorageOp.apply, attachProductToCategory]
    split
    · next prod cat hp hc =>
      split
      · exact h
      · next hnot =>
        rw [productLinks, categoryLinks, links_insert, links_insert]
        exact h.link (by simp [productLinks, links, hp]) (by simp [categoryLinks, links, hc]) hnot
    · exact h
  | detachProductFromCategory productId categoryId =>
    simp only [StorageOp.apply, detachProductFromCategory]
    split
    · next prod cat hp hc =>
      rw [productLinks, categoryLinks, links_insert, links_insert]
      simp only [apply_ite ProductData.categories, apply_ite CategoryData.products, ite_mem_erase]
      exact h.unlink (by simp [productLinks, links, hp]) (by simp [categoryLinks, links, hc])
    · exact h
  | getAllProducts _ _ | getAllCategories _ | getProductById _ | getCategoryById _ => exact h

theorem linked_runOps {s : InMemoryStorage} (h : Linked (productLinks s) (categoryLinks s))
    (ops : List StorageOp) (hk : KeepsLinksRun s ops) :
    Linked (productLinks (runOps ops s)) (categoryLinks (runOps ops s)) := by
  induction ops generalizing s with
  | nil => exact h
  | cons op ops ih => exact ih (linked_apply h op hk.1) hk.2

/-- From the empty storage, over every sequence of calls in which each add carries no
links and writes a key not yet stored, and each edit keeps the stored list, products
and categories stay consistently linked: each lists the other exactly when it is
listed back, no list names a key that is not stored, and no list repeats a key. -/
theorem storage_linked (ops : List StorageOp) (hk : KeepsLinksRun .empty ops) :
    Linked (productLinks (runOps ops .empty)) (categoryLinks (runOps ops .empty)) :=
  linked_runOps linked_empty ops hk

/-- A category and a product added without ids, attached, detached, and the category
deleted: every call keeps the links. -/
theorem storage_linked_catalogue :
    let ops := [StorageOp.addCategory ⟨"", "books", []⟩, .addProduct ⟨"", "novel", "", 12, 3, []⟩,
      .attachProductToCategory "prod_1" "cat_1", .detachProductFromCategory "prod_1" "cat_1",
      .deleteCategory "cat_1"]
    KeepsLinksRun .empty ops ∧
      Linked (productLinks (runOps ops .empty)) (categoryLinks (runOps ops .empty)) :=
  ⟨⟨⟨rfl, rfl⟩, ⟨rfl, rfl⟩, trivial, trivial, trivial, trivial⟩,
    storage_linked _ ⟨⟨rfl, rfl⟩, ⟨rfl, rfl⟩, trivial, trivial, trivial, trivial⟩⟩

/-- A product added with the category `"c"` in its list: the product lists the category,
which does not list the product back. -/
theorem addProduct_links_one_side :
    let ops := [StorageOp.addCategory ⟨"c", "", []⟩, .addProduct ⟨"p", "", "", 0, 0, ["c"]⟩]
    ¬ Linked (productLinks (runOps ops .empty)) (categoryLinks (runOps ops .empty)) := by
  intro ops h
  have := h.symm "p" "c" ["c"] [] rfl rfl
  simp at this

end ArchitectureCourse.Ecommerce
