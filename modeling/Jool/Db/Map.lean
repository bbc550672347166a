-- SUMMARY: The pool4 database refines a map from marks to table contents: on every filed database, every sequence of pool4db_add, pool4db_rm and pool4db_flush calls updates that map at their marks only.
import Jool.Db.Queries
import Mathlib.Logic.Function.Basic

/-!
# The database as a map

What `db.c` offers its callers is a map from marks to tables: `find_table(mark)` is the lookup,
and the buckets, the hash and `values` are how it is stored. `Pool4Db.contents` reads that map
off a database. On a filed database (`DbOk`, so on every reachable one) each operation that
changes a table is an update of the map at its mark and nowhere else (`contents_exec`):
`pool4db_add` changes the contents of an existing table, or inserts a new table's when
`pool4table_create` and `pool4table_add` both succeed; `pool4db_rm` and `pool4db_flush` change
the contents of an existing table, and never remove one. `DbCall.spec` is that map model, and
`pool4db_refines_map` lifts the step to every sequence of calls. The queries over the whole
database read the map only (`pool4db_queries_read_map`): two filed databases that store the same
contents under the same marks answer them alike, however their buckets are laid out.
-/

namespace Jool.Db

variable {T : Type}

/-- The map from marks to table contents a database stores, read through `find_table`. -/
def Pool4Db.contents (d : Pool4Db T) (mark : UInt32) : Option T := (findTable d mark).map (·.body)

/-- What `pool4db_add` leaves under its mark: the contents of the table there after
    `pool4table_add`, or, when there is none, those of a new table when `pool4table_create` and
    `pool4table_add` succeed. -/
def addedContents (old create : Option T) (add : T → Int × T) : Option T :=
  match old with
  | some body => some (add body).2
  | none => create.bind fun body => if (add body).1 = 0 then some (add body).2 else none

-- ---------------------------------------------------------------------------
-- Buckets
-- ---------------------------------------------------------------------------

section Buckets

variable {α : Type}

theorem getD_modify_self {f : List α → List α} {l : List (List α)} {i : Nat} (hi : i < l.length) :
    (l.modify f i).getD i [] = f (l.getD i []) := by
  simp [List.getD_eq_getElem?_getD, List.getElem?_modify, List.getElem?_eq_getElem hi]

theorem getD_modify_of_ne {f : List α → List α} {l : List (List α)} {i j : Nat} (hij : i ≠ j) :
    (l.modify f i).getD j [] = l.getD j [] := by
  simp only [List.getD_eq_getElem?_getD, List.getElem?_modify, if_neg hij]
  cases l[j]? <;> rfl

end Buckets

/-- Writing over the first table of a mark: the scan for that mark finds the new table. -/
theorem find?_setTable_self {t : Pool4Table T} :
    ∀ {b : List (Pool4Table T)}, (b.find? (·.mark == t.mark)).isSome →
      (setTable t b).find? (·.mark == t.mark) = some t
  | u :: us, hb => by
    by_cases hu : u.mark = t.mark
    · simp [setTable, hu]
    · have hus : (us.find? (·.mark == t.mark)).isSome := by simpa [List.find?_cons, hu] using hb
      simp [setTable, hu, find?_setTable_self hus]

/-- Writing over the first table of a mark: the scan for any other mark is unchanged. -/
theorem find?_setTable_of_ne {t : Pool4Table T} {x : UInt32} (hx : x ≠ t.mark) :
    ∀ b : List (Pool4Table T), (setTable t b).find? (·.mark == x) = b.find? (·.mark == x)
  | [] => rfl
  | u :: us => by
    by_cases hu : u.mark = t.mark
    · simp [setTable, hu, Ne.symm hx]
    · simp only [setTable, hu, if_false, List.find?_cons, find?_setTable_of_ne hx us]

-- ---------------------------------------------------------------------------
-- Writing and linking a table, on the map
-- ---------------------------------------------------------------------------

section Map

variable {d : Pool4Db T} (h : DbOk d)
include h

/-- A change `g` of the bucket of `t.mark` after which the scan for `t.mark` finds `t` and the
    scan for any other mark finds what it found: the contents change under `t.mark` only. -/
theorem contents_modify_bucket (d' : Pool4Db T) {g : List (Pool4Table T) → List (Pool4Table T)}
    (t : Pool4Table T) (hdb : d'.db = d.db.modify g (hash32 t.mark d.power))
    (hpower : d'.power = d.power)
    (hself : (g (d.db.getD (hash32 t.mark d.power) [])).find? (·.mark == t.mark) = some t)
    (hother : ∀ x, x ≠ t.mark → (g (d.db.getD (hash32 t.mark d.power) [])).find? (·.mark == x) =
      (d.db.getD (hash32 t.mark d.power) []).find? (·.mark == x))
    (x : UInt32) : d'.contents x = Function.update d.contents t.mark (some t.body) x := by
  unfold Pool4Db.contents findTable
  rw [hdb, hpower]
  by_cases hx : x = t.mark
  · subst hx
    rw [Function.update_same, getD_modify_self (h.hash_lt _), hself]
    rfl
  · rw [Function.update_noteq hx]
    by_cases hh : hash32 t.mark d.power = hash32 x d.power
    · rw [← hh, getD_modify_self (h.hash_lt _), hother x hx]
    · rw [getD_modify_of_ne hh]

/-- A write through the pointer `find_table` returned for `t.mark` changes the contents under
    that mark only. -/
theorem contents_writeTable {t : Pool4Table T} (hfound : (findTable d t.mark).isSome)
    (x : UInt32) : (writeTable d t).contents x = Function.update d.contents t.mark (some t.body) x :=
  contents_modify_bucket h (writeTable d t) t rfl rfl (find?_setTable_self hfound)
    (fun _ hx => find?_setTable_of_ne hx _) x

/-- Linking a table at the head of its bucket adds its contents under its mark. -/
theorem contents_linkTable (t : Pool4Table T) (x : UInt32) :
    (linkTable d t).contents x = Function.update d.contents t.mark (some t.body) x :=
  contents_modify_bucket h (linkTable d t) t rfl rfl (by simp) (fun _ hx => by simp [Ne.symm hx]) x

/-- An operation that writes `f` of the contents over the table of `mark`, if there is one. -/
theorem contents_update_existing {mark : UInt32} {f : T → T} {d' : Pool4Db T}
    (hd : ∀ t, findTable d mark = some t → d' = writeTable d ⟨mark, f t.body⟩)
    (hnone : findTable d mark = none → d' = d) :
    d'.contents = Function.update d.contents mark ((d.contents mark).map f) := by
  funext x
  cases hf : findTable d mark with
  | none =>
    rw [hnone hf, Function.update_eq_self_iff.2 (by simp [Pool4Db.contents, hf])]
  | some t =>
    rw [hd t hf, contents_writeTable h (t := ⟨mark, f t.body⟩) (by simp [hf]) x]
    simp [Pool4Db.contents, hf]

/-- `pool4db_add` on the map: `addedContents` under its mark, nothing else changed. -/
theorem contents_pool4dbAdd (mark : UInt32) (create : Option T) (add : T → Int × T) :
    (pool4dbAdd d mark create add).2.contents =
      Function.update d.contents mark (addedContents (d.contents mark) create add) := by
  have hc : d.contents mark = (findTable d mark).map (·.body) := rfl
  funext x
  cases hf : findTable d mark with
  | some t =>
    have hw : (pool4dbAdd d mark create add).2 = writeTable d ⟨mark, (add t.body).2⟩ := by
      simp [pool4dbAdd, hf]
    rw [hc, hf, hw]
    exact contents_writeTable h (t := ⟨mark, (add t.body).2⟩) (by simp [hf]) x
  | none =>
    have hnone : d.contents mark = none := by rw [hc, hf]; rfl
    have hsame : Function.update d.contents mark none = d.contents :=
      Function.update_eq_self_iff.2 hnone.symm
    have hcreate : (pool4dbAdd d mark create add).2 = (createTable d mark create add).2 := by
      simp only [pool4dbAdd, hf]
    rw [hcreate, hnone]
    cases create with
    | none => exact (congrFun hsame x).symm
    | some body =>
      by_cases ha : (add body).1 = 0
      · simp only [createTable, ha, ne_eq, not_true_eq_false, if_false, addedContents,
          Option.some_bind, if_true]
        exact contents_linkTable h ⟨mark, (add body).2⟩ x
      · simp only [createTable, ha, ne_eq, not_false_eq_true, if_true, if_false, addedContents,
          Option.some_bind]
        exact (congrFun hsame x).symm

end Map

-- ---------------------------------------------------------------------------
-- Runs: the database refines the map
-- ---------------------------------------------------------------------------

/-- A call of `db.c` that changes a table, with what the `pool4table_*` functions it calls
    return and leave in the table. -/
inductive DbCall (T : Type) where
  | add (mark : UInt32) (create : Option T) (tableAdd : T → Int × T)
  | rm (mark : UInt32) (tableRm : T → Int × T)
  | flush (mark : UInt32) (tableFlush : T → T)

/-- The call on the database, as `db.c` makes it. -/
def DbCall.exec : DbCall T → Pool4Db T → Pool4Db T
  | .add mark create tableAdd, d => (pool4dbAdd d mark create tableAdd).2
  | .rm mark tableRm, d => (pool4dbRm d mark tableRm).2
  | .flush mark tableFlush, d => (pool4dbFlush d mark tableFlush).2

/-- The call on the map from marks to contents: what it is for. `pool4db_add` leaves the
    `addedContents` under its mark; `pool4db_rm` and `pool4db_flush` change the contents there,
    if any. -/
def DbCall.spec : DbCall T → (UInt32 → Option T) → UInt32 → Option T
  | .add mark create tableAdd, m => Function.update m mark (addedContents (m mark) create tableAdd)
  | .rm mark tableRm, m => Function.update m mark ((m mark).map fun body => (tableRm body).2)
  | .flush mark tableFlush, m => Function.update m mark ((m mark).map tableFlush)

theorem DbOk.exec {d : Pool4Db T} (h : DbOk d) : ∀ c : DbCall T, DbOk (c.exec d)
  | .add mark create tableAdd => h.add mark create tableAdd
  | .rm mark tableRm => by
    show DbOk (pool4dbRm d mark tableRm).2
    rcases pool4dbRm_cases d mark tableRm with hd | ⟨body, hd⟩ <;> rw [hd]
    exacts [h, h.writeTable _]
  | .flush mark tableFlush => by
    show DbOk (pool4dbFlush d mark tableFlush).2
    rcases pool4dbFlush_cases d mark tableFlush with hd | ⟨body, hd⟩ <;> rw [hd]
    exacts [h, h.writeTable _]

/-- One call on a filed database is its update of the map. -/
theorem contents_exec {d : Pool4Db T} (h : DbOk d) : ∀ c : DbCall T,
    (c.exec d).contents = c.spec d.contents
  | .add mark create tableAdd => contents_pool4dbAdd h mark create tableAdd
  | .rm mark tableRm => contents_update_existing h (fun t ht => by simp [DbCall.exec, pool4dbRm, ht])
      (fun hn => by simp [DbCall.exec, pool4dbRm, hn])
  | .flush mark tableFlush =>
    contents_update_existing h (fun t ht => by simp [DbCall.exec, pool4dbFlush, ht])
      (fun hn => by simp [DbCall.exec, pool4dbFlush, hn])

/-- From every filed database, so from every one `pool4db_init` and the calls of `db.c`
    reach, any sequence of `pool4db_add`, `pool4db_rm` and `pool4db_flush` calls, whatever
    the `pool4table_*` functions do at each, leaves the contents `find_table` reads equal to
    those the same calls make on the map: each call updates its own mark only, `pool4db_add`
    puts there the contents after `pool4table_add` of the table of its mark, or of a new table
    when there is none and `pool4table_create` and `pool4table_add` succeed, and `pool4db_rm`
    and `pool4db_flush` change the contents of the table of their mark and never remove it. -/
theorem pool4db_refines_map {d : Pool4Db T} (h : DbOk d) (calls : List (DbCall T)) :
    (calls.foldl (fun d c => c.exec d) d).contents =
      calls.foldl (fun m c => c.spec m) d.contents := by
  induction calls generalizing d with
  | nil => rfl
  | cons c cs ih =>
    simp only [List.foldl_cons, ← contents_exec h c]
    exact ih (h.exec c)

theorem pool4db_refines_map_init :
    DbOk (⟨initDb (2 ^ 4), 4, 0⟩ : Pool4Db Nat) ∧
    ((([.add 7 (some 0) fun n => (0, n + 1), .flush 7 (· * 2), .rm 8 fun n => (0, n)] :
        List (DbCall Nat)).foldl
        (fun d c => c.exec d) (⟨initDb (2 ^ 4), 4, 0⟩ : Pool4Db Nat)).contents =
      ([.add 7 (some 0) fun n => (0, n + 1), .flush 7 (· * 2), .rm 8 fun n => (0, n)] :
        List (DbCall Nat)).foldl
        (fun m c => c.spec m) (⟨initDb (2 ^ 4), 4, 0⟩ : Pool4Db Nat).contents) :=
  ⟨dbOk_init rfl, pool4db_refines_map (dbOk_init rfl) _⟩

-- ---------------------------------------------------------------------------
-- The queries read the map only
-- ---------------------------------------------------------------------------

/-- `pool4db_is_empty` is the negation of `pool4db_contains_all` for `pool4table_is_empty`. -/
theorem pool4dbIsEmpty_eq_not (d : Pool4Db T) (isEmpty : T → Bool) :
    pool4dbIsEmpty d isEmpty = !pool4dbContainsAll d isEmpty := rfl

/-- On a filed database, the stored tables are the contents of the map. -/
theorem DbOk.exists_table_iff {d : Pool4Db T} (h : DbOk d) (P : T → Prop) :
    (∃ t ∈ tables d, P t.body) ↔ ∃ mark body, d.contents mark = some body ∧ P body := by
  constructor
  · rintro ⟨t, ht, hp⟩
    exact ⟨t.mark, t.body, by simp [Pool4Db.contents, h.findTable_of_mem ht], hp⟩
  · rintro ⟨mark, body, hc, hp⟩
    obtain ⟨t, hf, rfl⟩ := Option.map_eq_some'.1 hc
    exact ⟨t, mem_flatten_of_mem_getD (List.mem_of_find?_eq_some hf), hp⟩

/-- On a filed database: `pool4db_contains_all(addr)` is true exactly when the contents under
    some mark contain `addr`. -/
theorem DbOk.pool4dbContainsAll_iff_contents {d : Pool4Db T} (h : DbOk d) (contains : T → Bool) :
    pool4dbContainsAll d contains = true ↔
      ∃ mark body, d.contents mark = some body ∧ contains body = true :=
  (h.pool4dbContainsAll_eq_true_iff contains).trans (h.exists_table_iff (contains · = true))

/-- The queries of `db.c` over the whole database read the map only, although they visit the
    tables bucket by bucket: on a filed database `pool4db_contains_all` is true exactly when the
    contents under some mark contain the address, and `pool4db_is_empty` exactly when the
    contents under no mark are empty. So two filed databases with the same contents under the
    same marks, whatever their buckets hold and in whatever order, give the same answers to
    both. (The order in which `pool4db_destroy` hands the tables over is the buckets' order,
    and is not read off the map.) -/
theorem pool4db_queries_read_map {d d' : Pool4Db T} (h : DbOk d) (h' : DbOk d')
    (he : d.contents = d'.contents) :
    (∀ contains, (pool4dbContainsAll d contains = true ↔
        ∃ mark body, d.contents mark = some body ∧ contains body = true) ∧
      pool4dbContainsAll d contains = pool4dbContainsAll d' contains) ∧
    (∀ isEmpty, (pool4dbIsEmpty d isEmpty = true ↔
        ∀ mark body, d.contents mark = some body → isEmpty body = false) ∧
      pool4dbIsEmpty d isEmpty = pool4dbIsEmpty d' isEmpty) := by
  have hall : ∀ contains, pool4dbContainsAll d contains = pool4dbContainsAll d' contains :=
    fun contains => Bool.eq_iff_iff.2 <| by
      rw [h.pool4dbContainsAll_iff_contents, h'.pool4dbContainsAll_iff_contents, he]
  refine ⟨fun contains => ⟨h.pool4dbContainsAll_iff_contents contains, hall contains⟩,
    fun isEmpty => ⟨?_, by rw [pool4dbIsEmpty_eq_not, pool4dbIsEmpty_eq_not, hall]⟩⟩
  rw [pool4dbIsEmpty_eq_not, Bool.not_eq_true', ← Bool.not_eq_true,
    h.pool4dbContainsAll_iff_contents]
  simp

/-- Marks 0 and 13, which share bucket 0, given tables in this order. -/
def dbZeroFirst : Pool4Db Nat :=
  (pool4dbAdd (pool4dbAdd ⟨initDb (2 ^ 4), 4, 0⟩ 0 (some 0) countAdd).2 13 (some 0) countAdd).2

/-- Marks 13 and 0 given tables in this order: bucket 0 holds them the other way round. -/
def dbThirteenFirst : Pool4Db Nat :=
  (pool4dbAdd (pool4dbAdd ⟨initDb (2 ^ 4), 4, 0⟩ 13 (some 0) countAdd).2 0 (some 0) countAdd).2

theorem contents_dbZeroFirst : dbZeroFirst.contents = dbThirteenFirst.contents := by
  have h0 : DbOk (⟨initDb (2 ^ 4), 4, 0⟩ : Pool4Db Nat) := dbOk_init rfl
  have he : (⟨initDb (2 ^ 4), 4, 0⟩ : Pool4Db Nat).contents 0 = none ∧
      (⟨initDb (2 ^ 4), 4, 0⟩ : Pool4Db Nat).contents 13 = none := ⟨rfl, rfl⟩
  rw [dbZeroFirst, dbThirteenFirst, contents_pool4dbAdd (h0.add _ _ _), contents_pool4dbAdd h0,
    contents_pool4dbAdd (h0.add _ _ _), contents_pool4dbAdd h0,
    Function.update_noteq (show (13 : UInt32) ≠ 0 by decide),
    Function.update_noteq (show (0 : UInt32) ≠ 13 by decide), he.1, he.2]
  exact Function.update_comm (by decide) _ _ _

theorem pool4db_queries_read_map_sample :
    DbOk dbZeroFirst ∧ DbOk dbThirteenFirst ∧ dbZeroFirst.db ≠ dbThirteenFirst.db ∧
    dbZeroFirst.contents = dbThirteenFirst.contents ∧
    (∀ contains, (pool4dbContainsAll dbZeroFirst contains = true ↔
        ∃ mark body, dbZeroFirst.contents mark = some body ∧ contains body = true) ∧
      pool4dbContainsAll dbZeroFirst contains = pool4dbContainsAll dbThirteenFirst contains) ∧
    (∀ isEmpty, (pool4dbIsEmpty dbZeroFirst isEmpty = true ↔
        ∀ mark body, dbZeroFirst.contents mark = some body → isEmpty body = false) ∧
      pool4dbIsEmpty dbZeroFirst isEmpty = pool4dbIsEmpty dbThirteenFirst isEmpty) :=
  have h0 : DbOk (⟨initDb (2 ^ 4), 4, 0⟩ : Pool4Db Nat) := dbOk_init rfl
  have h : DbOk dbZeroFirst := (h0.add _ _ _).add _ _ _
  have h' : DbOk dbThirteenFirst := (h0.add _ _ _).add _ _ _
  ⟨h, h', by decide, contents_dbZeroFirst, pool4db_queries_read_map h h' contents_dbZeroFirst⟩

example : (([.add 7 (some 0) fun n => (0, n + 1), .flush 7 (· * 2)] : List (DbCall Nat)).foldl
    (fun d c => c.exec d) (⟨initDb (2 ^ 4), 4, 0⟩ : Pool4Db Nat)).contents 7 = some 2 := by decide

end Jool.Db
