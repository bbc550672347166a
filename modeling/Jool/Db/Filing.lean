-- SUMMARY: The filing invariant of the pool4 database: one table per mark, each in the bucket of its mark's hash, counted modulo 2^32 by values, kept by every operation of db.c.
import Jool.Db.Defs
import Mathlib.Data.List.Perm.Subperm

/-!
# Filing tables by mark

`find_table` looks for a mark only in the bucket `hash_32(mark, power)` and returns the first
table of that mark there. It finds every table because `db.c` keeps the database *filed*
(`DbOk`): each table sits in the bucket of its mark's hash, no two tables share a mark, and
`values` counts the tables. The count is an `unsigned int`: it is exact modulo `2^32` only,
and since marks are 32-bit there can be `2^32` tables, whose count `values` reads as `0`.

Every operation either leaves the database as it is, writes over the table `find_table`
returned (`writeTable`, which keeps all marks), or links a table of a mark nobody has
(`linkTable`); the step lemmas say what each keeps, and `DbRun.dbOk` carries the invariant
over every run.
-/

open scoped List

namespace Jool.Db

variable {T : Type}

/-- Every table of the database, bucket by bucket. -/
def tables (d : Pool4Db T) : List (Pool4Table T) := d.db.flatten

theorem hash32_lt (val : UInt32) {bits : Nat} (h : bits ≤ 32) : hash32 val bits < 2 ^ bits := by
  have hv : (val * 0x9e370001).toNat < 2 ^ (32 - bits) * 2 ^ bits := by
    rw [← Nat.pow_add, Nat.sub_add_cancel h]
    exact (val * 0x9e370001).toBitVec.isLt
  rw [hash32, Nat.shiftRight_eq_div_pow]
  exact Nat.div_lt_of_lt_mul hv

-- ---------------------------------------------------------------------------
-- Buckets
-- ---------------------------------------------------------------------------

section Buckets

variable {α β : Type}

/-- Linking an element at the head of bucket `i` adds it to the whole table, up to order. -/
theorem flatten_modify_cons (x : α) :
    ∀ (l : List (List α)) (i : Nat), i < l.length → (l.modify (x :: ·) i).flatten ~ x :: l.flatten
  | b :: l, 0, _ => by simp
  | b :: l, i + 1, h => by
    rw [List.modify_succ_cons, List.flatten_cons, List.flatten_cons]
    exact ((flatten_modify_cons x l i (by simpa using h)).append_left b).trans List.perm_middle

/-- Changing one element in a way `g` does not see leaves the image under `g` alone. -/
theorem map_modify_of_comp {f : α → α} {g : α → β} (hg : ∀ a, g (f a) = g a) :
    ∀ (i : Nat) (l : List α), (l.modify f i).map g = l.map g
  | _, [] => by simp
  | 0, a :: l => by simp [hg]
  | i + 1, a :: l => by simp [map_modify_of_comp hg i l]

/-- What bucket `j` holds after bucket `i` changed. -/
theorem mem_getD_modify {f : List α → List α} {l : List (List α)} {i j : Nat} {x : α}
    (h : x ∈ (l.modify f i).getD j []) : x ∈ if i = j then f (l.getD j []) else l.getD j [] := by
  rw [List.getD_eq_getElem?_getD, List.getElem?_modify] at h
  rw [List.getD_eq_getElem?_getD]
  cases hj : l[j]? with
  | none => simp [hj] at h
  | some b => by_cases hij : i = j <;> simp_all

/-- A bucket belongs to the array, as far as what it holds. -/
theorem mem_flatten_of_mem_getD {l : List (List α)} {i : Nat} {x : α} (h : x ∈ l.getD i []) :
    x ∈ l.flatten := by
  rw [List.getD_eq_getElem?_getD] at h
  cases hi : l[i]? with
  | none => simp [hi] at h
  | some b => exact List.mem_flatten_of_mem (List.getElem?_mem hi) (by simpa [hi] using h)

end Buckets

-- ---------------------------------------------------------------------------
-- Writing a table, linking a table
-- ---------------------------------------------------------------------------

@[simp] theorem map_mark_setTable (t : Pool4Table T) :
    ∀ b : List (Pool4Table T), (setTable t b).map (·.mark) = b.map (·.mark)
  | [] => rfl
  | u :: us => by
    by_cases h : u.mark = t.mark <;> simp [setTable, h, map_mark_setTable t us]

theorem mem_setTable {t u : Pool4Table T} {b : List (Pool4Table T)} (h : u ∈ setTable t b) :
    u = t ∨ u ∈ b := by
  induction b with
  | nil => simp [setTable] at h
  | cons v vs ih =>
    unfold setTable at h
    split at h <;> simp only [List.mem_cons] at h ⊢
    · rcases h with h | h <;> simp [h]
    · rcases h with h | h
      · simp [h]
      · rcases ih h with h | h <;> simp [h]

/-- A write through a table pointer changes no mark. -/
theorem marks_writeTable (d : Pool4Db T) (t : Pool4Table T) :
    (tables (writeTable d t)).map (·.mark) = (tables d).map (·.mark) := by
  simp only [tables, writeTable, List.map_flatten]
  rw [map_modify_of_comp (map_mark_setTable t)]

theorem mem_writeTable {d : Pool4Db T} {t u : Pool4Table T} {i : Nat}
    (h : u ∈ (writeTable d t).db.getD i []) :
    (u = t ∧ hash32 t.mark d.power = i) ∨ u ∈ d.db.getD i [] := by
  have h' := mem_getD_modify h
  split at h'
  · next hi => exact (mem_setTable h').imp (⟨·, hi⟩) id
  · exact .inr h'

theorem tables_linkTable (d : Pool4Db T) (t : Pool4Table T) (h : hash32 t.mark d.power < d.db.length) :
    tables (linkTable d t) ~ t :: tables d :=
  flatten_modify_cons t d.db _ h

theorem mem_linkTable {d : Pool4Db T} {t u : Pool4Table T} {i : Nat}
    (h : u ∈ (linkTable d t).db.getD i []) :
    (u = t ∧ hash32 t.mark d.power = i) ∨ u ∈ d.db.getD i [] := by
  have h' := mem_getD_modify h
  split at h'
  · next hi => exact (List.mem_cons.1 h').imp (⟨·, hi⟩) id
  · exact .inr h'

-- ---------------------------------------------------------------------------
-- The invariant
-- ---------------------------------------------------------------------------

/-- The database is filed: `slots()` buckets, each table in the bucket of its mark's hash, no
    mark twice, and `values` the number of tables modulo `2^32`. -/
structure DbOk (d : Pool4Db T) : Prop where
  power_eq : d.power = 4
  length_eq : d.db.length = slots d
  filed : ∀ i, ∀ t ∈ d.db.getD i [], hash32 t.mark d.power = i
  marks_nodup : ((tables d).map (·.mark)).Nodup
  values_eq : d.values.toNat = (tables d).length % 2 ^ 32

section Filed

variable {d : Pool4Db T} (h : DbOk d)
include h

theorem DbOk.hash_lt (mark : UInt32) : hash32 mark d.power < d.db.length := by
  rw [h.length_eq, slots, h.power_eq]
  exact hash32_lt mark (by decide)

/-- Every table sits in the bucket of its mark. -/
theorem DbOk.mem_bucket {t : Pool4Table T} (ht : t ∈ tables d) :
    t ∈ d.db.getD (hash32 t.mark d.power) [] := by
  obtain ⟨b, hb, htb⟩ := List.mem_flatten.1 ht
  obtain ⟨i, hi⟩ := List.mem_iff_getElem?.1 hb
  have hbi : d.db.getD i [] = b := by simp [List.getD_eq_getElem?_getD, hi]
  rw [h.filed i t (hbi ▸ htb), hbi]
  exact htb

theorem DbOk.findTable_eq_none {mark : UInt32} :
    findTable d mark = none ↔ ∀ t ∈ tables d, t.mark ≠ mark := by
  rw [findTable, List.find?_eq_none]
  constructor
  · intro hn t ht hm
    exact hn t (hm ▸ h.mem_bucket ht) (by simp [hm])
  · intro hn t ht hm
    exact hn t (mem_flatten_of_mem_getD ht) (by simpa using hm)

/-- `find_table` finds every table under its mark. -/
theorem DbOk.findTable_of_mem {t : Pool4Table T} (ht : t ∈ tables d) :
    findTable d t.mark = some t := by
  cases hf : findTable d t.mark with
  | none => exact absurd rfl ((h.findTable_eq_none.1 hf) t ht)
  | some u =>
    have hu := List.mem_of_find?_eq_some hf
    have hm : u.mark = t.mark := by simpa using List.find?_some hf
    rw [List.inj_on_of_nodup_map h.marks_nodup (mem_flatten_of_mem_getD hu) ht hm]

/-- Writing over a table keeps the database filed. -/
theorem DbOk.writeTable (t : Pool4Table T) : DbOk (writeTable d t) where
  power_eq := h.power_eq
  length_eq := by simp [Db.writeTable, slots, h.length_eq]
  filed i u hu := by
    rcases mem_writeTable hu with ⟨rfl, hi⟩ | hu
    · exact hi
    · exact h.filed i u hu
  marks_nodup := by rw [marks_writeTable]; exact h.marks_nodup
  values_eq := by
    rw [← List.length_map (tables _) (·.mark), marks_writeTable, List.length_map]
    exact h.values_eq

/-- Linking a table of a new mark keeps the database filed. -/
theorem DbOk.linkTable {t : Pool4Table T} (hnew : ∀ u ∈ tables d, u.mark ≠ t.mark) :
    DbOk (linkTable d t) where
  power_eq := h.power_eq
  length_eq := by simp [Db.linkTable, slots, h.length_eq]
  filed i u hu := by
    rcases mem_linkTable hu with ⟨rfl, hi⟩ | hu
    · exact hi
    · exact h.filed i u hu
  marks_nodup := by
    rw [((tables_linkTable d t (h.hash_lt _)).map _).nodup_iff, List.map_cons, List.nodup_cons]
    exact ⟨fun hm => by
      obtain ⟨u, hu, he⟩ := List.mem_map.1 hm
      exact hnew u hu he, h.marks_nodup⟩
  values_eq := by
    rw [(tables_linkTable d t (h.hash_lt _)).length_eq, List.length_cons]
    show (d.values.toNat + 1) % 2 ^ 32 = _
    rw [h.values_eq, Nat.mod_add_mod]

/-- The number of tables fits the marks: at most `2^32`. -/
theorem DbOk.length_le : (tables d).length ≤ 2 ^ 32 := by
  have hnd : (((tables d).map (·.mark)).map UInt32.toNat).Nodup :=
    h.marks_nodup.map (fun _ _ => UInt32.toNat.inj)
  have hsub : ((tables d).map (·.mark)).map UInt32.toNat ⊆ List.range (2 ^ 32) := fun x hx => by
    obtain ⟨m, -, rfl⟩ := List.mem_map.1 hx
    exact List.mem_range.2 m.toBitVec.isLt
  simpa using (hnd.subperm hsub).length_le

end Filed

-- ---------------------------------------------------------------------------
-- The operations
-- ---------------------------------------------------------------------------

/-- What `pool4db_add` can do: write over the table of `mark`, or, when there is none, leave
    the database alone or link a new table. -/
theorem pool4dbAdd_cases (d : Pool4Db T) (mark : UInt32) (create : Option T)
    (add : T → Int × T) :
    (∃ t, findTable d mark = some t ∧
      (pool4dbAdd d mark create add).2 = writeTable d ⟨mark, (add t.body).2⟩) ∨
    (findTable d mark = none ∧ (pool4dbAdd d mark create add).2 = d) ∨
    (∃ body, findTable d mark = none ∧ create = some body ∧ (add body).1 = 0 ∧
      (pool4dbAdd d mark create add).2 = linkTable d ⟨mark, (add body).2⟩) := by
  cases hf : findTable d mark with
  | some t => exact .inl ⟨t, rfl, by simp [pool4dbAdd, hf]⟩
  | none =>
    cases create with
    | none => exact .inr (.inl ⟨rfl, by simp [pool4dbAdd, hf, createTable]⟩)
    | some body =>
      by_cases ha : (add body).1 = 0
      · exact .inr (.inr ⟨body, rfl, rfl, ha, by simp [pool4dbAdd, hf, createTable, ha]⟩)
      · exact .inr (.inl ⟨rfl, by simp [pool4dbAdd, hf, createTable, ha]⟩)

/-- `pool4db_rm` and `pool4db_flush` at most write over the table of `mark`. -/
theorem pool4dbRm_cases (d : Pool4Db T) (mark : UInt32) (rm : T → Int × T) :
    (pool4dbRm d mark rm).2 = d ∨ ∃ body, (pool4dbRm d mark rm).2 = writeTable d ⟨mark, body⟩ := by
  unfold pool4dbRm
  split
  · exact .inr ⟨_, rfl⟩
  · exact .inl rfl

theorem pool4dbFlush_cases (d : Pool4Db T) (mark : UInt32) (flush : T → T) :
    (pool4dbFlush d mark flush).2 = d ∨
      ∃ body, (pool4dbFlush d mark flush).2 = writeTable d ⟨mark, body⟩ := by
  unfold pool4dbFlush
  split
  · exact .inr ⟨_, rfl⟩
  · exact .inl rfl

/-- A `pool4db_add` that finds no table and fails to make one changes nothing. -/
theorem pool4dbAdd_of_failed {d : Pool4Db T} {mark : UInt32} {create : Option T}
    {add : T → Int × T} (hf : findTable d mark = none)
    (hfail : ∀ body, create = some body → (add body).1 ≠ 0) :
    (pool4dbAdd d mark create add).2 = d := by
  rcases pool4dbAdd_cases d mark create add with ⟨t, ht, -⟩ | ⟨-, hd⟩ | ⟨body, -, hc, ha, -⟩
  · simp [hf] at ht
  · exact hd
  · exact absurd ha (hfail body hc)

theorem getD_initDb (n i : Nat) : (initDb n : List (List (Pool4Table T))).getD i [] = [] := by
  simp only [initDb, List.getD_eq_getElem?_getD, List.getElem?_replicate]
  split <;> rfl

theorem dbOk_init {d : Pool4Db T} (h : (pool4dbInit true).2 = some d) : DbOk d := by
  simp only [pool4dbInit, if_true, Option.some.injEq] at h
  subst h
  refine ⟨rfl, by simp [initDb, slots], fun i t ht => ?_, by simp [tables, initDb],
    by simp [tables, initDb]⟩
  simp only [getD_initDb, List.not_mem_nil] at ht

theorem DbOk.add {d : Pool4Db T} (h : DbOk d) (mark : UInt32) (create : Option T)
    (add : T → Int × T) : DbOk (pool4dbAdd d mark create add).2 := by
  rcases pool4dbAdd_cases d mark create add with ⟨t, -, hd⟩ | ⟨-, hd⟩ | ⟨body, hf, -, -, hd⟩
  · rw [hd]; exact h.writeTable _
  · rw [hd]; exact h
  · rw [hd]; exact h.linkTable (h.findTable_eq_none.1 hf)

/-- Every reachable database is filed. -/
theorem DbRun.dbOk {d : Pool4Db T} (h : DbRun d) : DbOk d := by
  induction h with
  | init h => exact dbOk_init h
  | add mark create add _ ih => exact ih.add mark create add
  | rm mark rm _ ih =>
    rcases pool4dbRm_cases _ mark rm with hd | ⟨body, hd⟩
    · exact hd ▸ ih
    · exact hd ▸ ih.writeTable _
  | flush mark flush _ ih =>
    rcases pool4dbFlush_cases _ mark flush with hd | ⟨body, hd⟩
    · exact hd ▸ ih
    · exact hd ▸ ih.writeTable _

-- ---------------------------------------------------------------------------
-- What the database guarantees
-- ---------------------------------------------------------------------------

/-- After any run, each mark has at most one table, every table is in the bucket of its mark's
    hash, `values` counts the tables modulo `2^32` (there are at most `2^32` of them), a failed
    `pool4db_add` of a new mark changes nothing, and `find_table` finds every table. -/
theorem pool4db_tables_filed {d : Pool4Db T} (h : DbRun d) :
    ((tables d).map (·.mark)).Nodup ∧
    (∀ i, ∀ t ∈ d.db.getD i [], hash32 t.mark d.power = i) ∧
    d.db.length = slots d ∧
    (tables d).length ≤ 2 ^ 32 ∧
    d.values.toNat = (tables d).length % 2 ^ 32 ∧
    (∀ (mark : UInt32) (create : Option T) (add : T → Int × T), findTable d mark = none →
      (∀ body, create = some body → (add body).1 ≠ 0) → (pool4dbAdd d mark create add).2 = d) ∧
    (∀ t ∈ tables d, findTable d t.mark = some t) :=
  have hok := h.dbOk
  ⟨hok.marks_nodup, hok.filed, hok.length_eq, hok.length_le, hok.values_eq,
    fun _ _ _ hf hfail => pool4dbAdd_of_failed hf hfail, fun _ ht => hok.findTable_of_mem ht⟩

/-- `pool4table_add` on a table that counts its entries: it succeeds and counts one more. -/
def countAdd : Nat → Int × Nat := fun n => (0, n + 1)

/-- A sample database: marks 0 and 13, which share bucket 0, and mark 5 given tables; an
    addition for mark 7 whose `pool4table_add` fails with `-ENOMEM`; and a second addition to
    mark 13's table. -/
def sampleDb : Pool4Db Nat :=
  (pool4dbAdd (pool4dbAdd (pool4dbAdd (pool4dbAdd (pool4dbAdd ⟨initDb (2 ^ 4), 4, 0⟩ 0 (some 0)
    countAdd).2 13 (some 0) countAdd).2 7 (some 0) fun n => (-ENOMEM, n)).2 5 (some 0)
    countAdd).2 13 (some 0) countAdd).2

theorem pool4db_tables_filed_sample :
    DbRun sampleDb ∧ (sampleDb.db.getD 0 []).map (·.mark) = [13, 0] ∧
    ((tables sampleDb).map (·.mark)).Nodup ∧
    (∀ i, ∀ t ∈ sampleDb.db.getD i [], hash32 t.mark sampleDb.power = i) ∧
    sampleDb.db.length = slots sampleDb ∧
    (tables sampleDb).length ≤ 2 ^ 32 ∧
    sampleDb.values.toNat = (tables sampleDb).length % 2 ^ 32 ∧
    (∀ (mark : UInt32) (create : Option Nat) (add : Nat → Int × Nat), findTable sampleDb mark = none →
      (∀ body, create = some body → (add body).1 ≠ 0) → (pool4dbAdd sampleDb mark create add).2 = sampleDb) ∧
    (∀ t ∈ tables sampleDb, findTable sampleDb t.mark = some t) :=
  have h : DbRun sampleDb :=
    .add 13 (some 0) countAdd <| .add 5 (some 0) countAdd <| .add 7 (some 0) (fun n => (-ENOMEM, n)) <|
      .add 13 (some 0) countAdd <| .add 0 (some 0) countAdd <| .init rfl
  ⟨h, by decide, pool4db_tables_filed h⟩

/-- For every `n ≤ 2^32`, successful additions of the marks `0, ..., n - 1` reach a database
    of `n` tables. -/
theorem exists_dbRun_length :
    ∀ n, n ≤ 2 ^ 32 → ∃ d : Pool4Db Unit, DbRun d ∧ (tables d).length = n ∧
      ∀ t ∈ tables d, t.mark.toNat < n
  | 0, _ => ⟨⟨initDb (2 ^ 4), 4, 0⟩, .init rfl, by simp [tables, initDb], by simp [tables, initDb]⟩
  | n + 1, hn => by
    obtain ⟨d, hd, hlen, hlt⟩ := exists_dbRun_length n (by omega)
    have hok := hd.dbOk
    have hm : (UInt32.ofNat n).toNat = n := UInt32.toNat_ofNat_of_lt (by simp [UInt32.size]; omega)
    have hnew : ∀ t ∈ tables d, t.mark ≠ UInt32.ofNat n := fun t ht he => by
      have := hlt t ht
      rw [he, hm] at this
      exact Nat.lt_irrefl n this
    have hadd : (pool4dbAdd d (UInt32.ofNat n) (some ()) fun b => (0, b)).2 =
        linkTable d ⟨UInt32.ofNat n, ()⟩ := by
      simp [pool4dbAdd, hok.findTable_eq_none.2 hnew, createTable]
    have hperm := tables_linkTable d ⟨UInt32.ofNat n, ()⟩ (hok.hash_lt _)
    refine ⟨_, .add (UInt32.ofNat n) (some ()) (fun b => (0, b)) hd, ?_, fun t ht => ?_⟩
    · rw [hadd, hperm.length_eq, List.length_cons, hlen]
    · rw [hadd] at ht
      rcases List.mem_cons.1 (hperm.subset ht) with rfl | ht
      · rw [hm]; exact Nat.lt_succ_self n
      · exact Nat.lt_succ_of_lt (hlt t ht)

theorem pool4db_values_wraps :
    ¬ ∀ d : Pool4Db Unit, DbRun d → d.values.toNat = (tables d).length := by
  intro hall
  obtain ⟨d, hd, hlen, -⟩ := exists_dbRun_length (2 ^ 32) le_rfl
  have hlt : d.values.toNat < 2 ^ 32 := d.values.toBitVec.isLt
  rw [hall d hd, hlen] at hlt
  exact Nat.lt_irrefl _ hlt

end Jool.Db
