-- SUMMARY: The entry points of db.c that change no table (pool4db_contains, pool4db_contains_all, pool4db_is_empty, the two foreach functions) and pool4db_destroy, characterised on every filed database, with the inputs where two answers go wrong.
import Jool.Db.Filing

/-!
# Queries of the pool4 database

`pool4db_contains` and `pool4db_is_empty` change nothing; what matters is the `bool` each
returns. Both answer something other than their names say. `pool4db_contains` passes the `int`
it computes to its `bool` result, so the `-ESRCH` of a mark with no table reads as `true`.
`pool4db_is_empty` sets `empty` to false at the first table that `pool4table_is_empty` calls
empty, so it answers whether *no* table is empty. On a filed database (`DbOk`, so on every
reachable one) the loops over `i < slots()` visit exactly the stored tables, and both answers
can be stated over the tables themselves, as can those of `pool4db_contains_all` and the two
`foreach` functions, which are right, and the tables `pool4db_destroy` frees: each one once.
-/

namespace Jool.Db

variable {T : Type}

-- ---------------------------------------------------------------------------
-- The loops over the buckets
-- ---------------------------------------------------------------------------

/-- Reading buckets `0, ..., n - 1` of an array of at most `n` buckets reads all of them. -/
theorem flatMap_range_getD {α : Type} :
    ∀ (l : List (List α)) (n : Nat), l.length ≤ n → (List.range n).flatMap (l.getD · []) = l.flatten
  | [], n, _ => by simp
  | b :: l, n + 1, h => by
    rw [List.range_succ_eq_map, List.flatMap_cons, List.flatMap_map]
    simp only [List.getD_cons_zero, List.getD_cons_succ, List.flatten_cons]
    rw [flatMap_range_getD l n (by simpa using h)]

/-- On a filed database the loops of `db.c` visit exactly its tables. -/
theorem DbOk.visited_eq {d : Pool4Db T} (h : DbOk d) : visited d = tables d :=
  flatMap_range_getD d.db (slots d) h.length_eq.le

-- ---------------------------------------------------------------------------
-- pool4db_contains
-- ---------------------------------------------------------------------------

/-- `pool4db_contains` answers true for a mark `find_table` does not find, and otherwise what
    `pool4table_contains` answers. -/
theorem pool4dbContains_eq_true_iff (d : Pool4Db T) (mark : UInt32) (contains : T → Bool) :
    pool4dbContains d mark contains = true ↔
      findTable d mark = none ∨ ∃ t, findTable d mark = some t ∧ contains t.body = true := by
  unfold pool4dbContains
  cases findTable d mark with
  | none => simp [ESRCH]
  | some t => cases contains t.body <;> simp

/-- On a filed database: `pool4db_contains(mark, addr)` is true exactly when no table has
    `mark`, or the table of `mark` contains `addr`. -/
theorem DbOk.pool4dbContains_eq_true_iff {d : Pool4Db T} (h : DbOk d) (mark : UInt32)
    (contains : T → Bool) :
    pool4dbContains d mark contains = true ↔
      (∀ t ∈ tables d, t.mark ≠ mark) ∨
        ∃ t ∈ tables d, t.mark = mark ∧ contains t.body = true := by
  rw [Db.pool4dbContains_eq_true_iff, h.findTable_eq_none]
  refine or_congr Iff.rfl ⟨fun ⟨t, ht, hc⟩ => ?_, fun ⟨t, ht, hm, hc⟩ => ?_⟩
  · have htm : t.mark = mark := by simpa using List.find?_some ht
    exact ⟨t, mem_flatten_of_mem_getD (List.mem_of_find?_eq_some ht), htm, hc⟩
  · exact ⟨t, hm ▸ h.findTable_of_mem ht, hc⟩

/-- The database right after `pool4db_init`, with no table: `pool4db_contains` answers true for
    every mark and every address. -/
theorem pool4db_contains_without_table :
    DbRun (⟨initDb (2 ^ 4), 4, 0⟩ : Pool4Db Unit) ∧
    tables (⟨initDb (2 ^ 4), 4, 0⟩ : Pool4Db Unit) = [] ∧
    ∀ (mark : UInt32) (contains : Unit → Bool),
      pool4dbContains (⟨initDb (2 ^ 4), 4, 0⟩ : Pool4Db Unit) mark contains = true :=
  ⟨.init rfl, by simp [tables, initDb], fun mark contains =>
    (pool4dbContains_eq_true_iff _ mark contains).2 (.inl (by rw [findTable, getD_initDb]; rfl))⟩

-- ---------------------------------------------------------------------------
-- pool4db_is_empty
-- ---------------------------------------------------------------------------

/-- `pool4db_is_empty` is true exactly when `pool4table_is_empty` holds of no visited table. -/
theorem pool4dbIsEmpty_eq_true_iff (d : Pool4Db T) (isEmpty : T → Bool) :
    pool4dbIsEmpty d isEmpty = true ↔ ∀ t ∈ visited d, isEmpty t.body = false := by
  simp [pool4dbIsEmpty]

/-- On a filed database: `pool4db_is_empty()` is true exactly when no table is empty. -/
theorem DbOk.pool4dbIsEmpty_eq_true_iff {d : Pool4Db T} (h : DbOk d) (isEmpty : T → Bool) :
    pool4dbIsEmpty d isEmpty = true ↔ ∀ t ∈ tables d, isEmpty t.body = false := by
  rw [Db.pool4dbIsEmpty_eq_true_iff, h.visited_eq]

/-- The database holding one table of mark 0: when `pool4table_is_empty` calls it empty,
    `pool4db_is_empty` answers false, and when it calls it non-empty, true. -/
theorem pool4db_is_empty_inverted :
    DbRun (pool4dbAdd (⟨initDb (2 ^ 4), 4, 0⟩ : Pool4Db Unit) 0 (some ()) fun b => (0, b)).2 ∧
    tables (pool4dbAdd (⟨initDb (2 ^ 4), 4, 0⟩ : Pool4Db Unit) 0 (some ()) fun b => (0, b)).2 =
      [⟨0, ()⟩] ∧
    pool4dbIsEmpty
      (pool4dbAdd (⟨initDb (2 ^ 4), 4, 0⟩ : Pool4Db Unit) 0 (some ()) fun b => (0, b)).2
      (fun _ => true) = false ∧
    pool4dbIsEmpty
      (pool4dbAdd (⟨initDb (2 ^ 4), 4, 0⟩ : Pool4Db Unit) 0 (some ()) fun b => (0, b)).2
      (fun _ => false) = true :=
  ⟨.add 0 (some ()) _ (.init rfl), by decide, by decide, by decide⟩

-- ---------------------------------------------------------------------------
-- The other loops and lookups
-- ---------------------------------------------------------------------------

/-- On a filed database: `pool4db_contains_all(addr)` is true exactly when some table contains
    `addr`. -/
theorem DbOk.pool4dbContainsAll_eq_true_iff {d : Pool4Db T} (h : DbOk d) (contains : T → Bool) :
    pool4dbContainsAll d contains = true ↔ ∃ t ∈ tables d, contains t.body = true := by
  simp [pool4dbContainsAll, h.visited_eq]

/-- On a filed database: `pool4db_foreach_sample` and `pool4db_foreach_port` iterate over the
    table of `mark` when there is one, and answer `-ESRCH` when there is none. -/
theorem DbOk.foreachIn_eq {d : Pool4Db T} (h : DbOk d) (mark : UInt32) (foreach : T → Int) :
    (∀ t ∈ tables d, t.mark = mark → foreachIn d mark foreach = foreach t.body) ∧
    ((∀ t ∈ tables d, t.mark ≠ mark) → foreachIn d mark foreach = -ESRCH) := by
  refine ⟨fun t ht hm => ?_, fun hno => ?_⟩
  · rw [foreachIn, ← hm, h.findTable_of_mem ht]
  · rw [foreachIn, h.findTable_eq_none.2 hno]

/-- On a filed database `pool4db_destroy` hands every table to `pool4table_destroy` once: the
    tables it destroys are the database's, no mark twice. -/
theorem DbOk.pool4dbDestroy_eq {d : Pool4Db T} (h : DbOk d) :
    pool4dbDestroy d = tables d ∧ ((pool4dbDestroy d).map (·.mark)).Nodup := by
  rw [pool4dbDestroy, h.visited_eq]
  exact ⟨rfl, h.marks_nodup⟩

end Jool.Db
