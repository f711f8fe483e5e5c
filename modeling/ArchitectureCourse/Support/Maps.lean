import Mathlib.Data.List.AList

/-!
# Maps

The servers keep their records in `std::map` and `std::unordered_map`, modelled as
association lists from keys to records.  Most invariants of a store say that every
stored record has some property; this module proves once that inserting a record with
the property and erasing a key keep it, and that erasing a key that is not stored
leaves the map as it was.
-/

namespace ArchitectureCourse

variable {K D : Type} [DecidableEq K]

/-- A property of every stored record survives an insert of a record that has it. -/
theorem forall_lookup_insert {P : D → Prop} {m : AList (fun _ : K => D)} {k : K} {d : D}
    (hd : P d) (hm : ∀ x e, m.lookup x = some e → P e) :
    ∀ x e, (m.insert k d).lookup x = some e → P e := by
  intro x e hx
  by_cases h : x = k
  · subst h
    simp only [AList.lookup_insert, Option.some.injEq] at hx
    exact hx ▸ hd
  · exact hm x e (by rwa [AList.lookup_insert_ne h] at hx)

theorem forall_lookup_erase {P : D → Prop} {m : AList (fun _ : K => D)} (k : K)
    (hm : ∀ x e, m.lookup x = some e → P e) : ∀ x e, (m.erase k).lookup x = some e → P e := by
  intro x e hx
  by_cases h : x = k
  · rw [h, AList.lookup_erase] at hx
    cases hx
  · exact hm x e (by rwa [AList.lookup_erase_ne h] at hx)

theorem erase_of_lookup_eq_none {m : AList (fun _ : K => D)} {k : K} (h : m.lookup k = none) :
    m.erase k = m :=
  AList.ext (List.kerase_of_not_mem_keys (AList.lookup_eq_none.mp h))

end ArchitectureCourse
