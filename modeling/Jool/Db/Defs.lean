-- SUMMARY: The pool4 database of db.c: tables filed by mark in a hash table of 2^power buckets, and every operation of db.c on it.
import Jool.Basic

/-!
# The pool4 database

`db.c` files `pool4_table`s by their 32-bit mark in an array of `2^power` hash buckets, and
counts them in `values`. The tables themselves belong to `pool4/table.c`, which is not part of
this source: `db.c` reads only a table's `mark`, and hands the table to the `pool4table_*`
functions for everything else. Here a table is its mark and contents of any type `T`; each
call of a `pool4table_*` function that changes a table is an argument saying what it returns
and leaves in the table, so that every behaviour of those functions is covered. A
`pool4table_create(mark)` table carries `mark`, and no `pool4table_*` function changes it.
-/

namespace Jool.Db

/-- `struct pool4_table`, as `db.c` sees it. -/
structure Pool4Table (T : Type) where
  mark : UInt32
  body : T
  deriving DecidableEq, Repr

/-- The globals of `db.c`: the bucket array `db`, its size exponent `power`, and `values`. -/
structure Pool4Db (T : Type) where
  db : List (List (Pool4Table T))
  power : Nat
  values : UInt32
  deriving DecidableEq, Repr

variable {T : Type}

def ENOMEM : Int := 12
def ESRCH : Int := 3

/-- `hash_32` of `linux/hash.h`: the product with `GOLDEN_RATIO_PRIME_32`, in 32 bits, keeps
    its top `bits` bits. -/
def hash32 (val : UInt32) (bits : Nat) : Nat := (val * 0x9e370001).toNat >>> (32 - bits)

/-- `slots`: the number of buckets, `1 << power`. -/
def slots (d : Pool4Db T) : Nat := 2 ^ d.power

/-- `init_db`: `size` empty buckets. -/
def initDb (size : Nat) : List (List (Pool4Table T)) := List.replicate size []

/-- `pool4db_init`: sixteen empty buckets and no table. `allocOk` says whether the `kmalloc`
    of the buckets succeeds. -/
def pool4dbInit (allocOk : Bool) : Int × Option (Pool4Db T) :=
  if allocOk then (0, some ⟨initDb (2 ^ 4), 4, 0⟩) else (-ENOMEM, none)

/-- `find_table`: the first table of `mark` in its bucket. -/
def findTable (d : Pool4Db T) (mark : UInt32) : Option (Pool4Table T) :=
  (d.db.getD (hash32 mark d.power) []).find? (·.mark == mark)

/-- A bucket after writing `t` over its first table of `t.mark`. -/
def setTable (t : Pool4Table T) : List (Pool4Table T) → List (Pool4Table T)
  | [] => []
  | u :: us => if u.mark = t.mark then t :: us else u :: setTable t us

/-- The database after a write through the pointer `find_table` returned for `t.mark`. -/
def writeTable (d : Pool4Db T) (t : Pool4Table T) : Pool4Db T :=
  { d with db := d.db.modify (setTable t) (hash32 t.mark d.power) }

/-- The end of `create_table`: `values++`, then `hlist_add_head` in the table's bucket. -/
def linkTable (d : Pool4Db T) (t : Pool4Table T) : Pool4Db T :=
  { d with values := d.values + 1, db := d.db.modify (t :: ·) (hash32 t.mark d.power) }

/-- `create_table`. `create` is what `pool4table_create(mark)` returns (the contents of the
    new table, `none` for `NULL`) and `add` what `pool4table_add` returns and leaves in the
    table it is given. A failed addition frees the table. (The warning when `values` exceeds
    `slots()` changes nothing.) -/
def createTable (d : Pool4Db T) (mark : UInt32) (create : Option T) (add : T → Int × T) :
    Int × Pool4Db T :=
  match create with
  | none => (-ENOMEM, d)
  | some body =>
    if (add body).1 ≠ 0 then ((add body).1, d) else (0, linkTable d ⟨mark, (add body).2⟩)

/-- `pool4db_add`: add to the table of `mark`, or create it. -/
def pool4dbAdd (d : Pool4Db T) (mark : UInt32) (create : Option T) (add : T → Int × T) :
    Int × Pool4Db T :=
  match findTable d mark with
  | some t => ((add t.body).1, writeTable d ⟨mark, (add t.body).2⟩)
  | none => createTable d mark create add

/-- `pool4db_rm`: `rm` is what `pool4table_rm` returns and leaves in the table. -/
def pool4dbRm (d : Pool4Db T) (mark : UInt32) (rm : T → Int × T) : Int × Pool4Db T :=
  match findTable d mark with
  | some t => ((rm t.body).1, writeTable d ⟨mark, (rm t.body).2⟩)
  | none => (-ESRCH, d)

/-- `pool4db_flush`: `flush` is what `pool4table_flush` leaves in the table. -/
def pool4dbFlush (d : Pool4Db T) (mark : UInt32) (flush : T → T) : Int × Pool4Db T :=
  match findTable d mark with
  | some t => (0, writeTable d ⟨mark, flush t.body⟩)
  | none => (-ESRCH, d)

/-- `pool4db_contains`: the `int` it computes, the answer of `pool4table_contains` or
    `-ESRCH`, is returned as a `bool`. -/
def pool4dbContains (d : Pool4Db T) (mark : UInt32) (contains : T → Bool) : Bool :=
  let error : Int :=
    match findTable d mark with
    | some t => if contains t.body then 1 else 0
    | none => -ESRCH
  error ≠ 0

/-- The tables the loops over `i < slots()` visit, bucket by bucket. -/
def visited (d : Pool4Db T) : List (Pool4Table T) :=
  (List.range (slots d)).flatMap fun i => d.db.getD i []

/-- `pool4db_contains_all`: whether a table, in the order the loops visit them, contains the
    address. -/
def pool4dbContainsAll (d : Pool4Db T) (contains : T → Bool) : Bool :=
  (visited d).any fun t => contains t.body

/-- `pool4db_is_empty`: `empty` starts true and turns false at the first table for which
    `pool4table_is_empty` holds. -/
def pool4dbIsEmpty (d : Pool4Db T) (isEmpty : T → Bool) : Bool :=
  !(visited d).any fun t => isEmpty t.body

/-- `pool4db_foreach_sample` and `pool4db_foreach_port`: what the table iteration of `mark`'s
    table returns (`foreach`, the answer of `pool4table_foreach_sample` or `_port` on the
    table's contents), or `-ESRCH`. The callbacks only read the table. -/
def foreachIn (d : Pool4Db T) (mark : UInt32) (foreach : T → Int) : Int :=
  match findTable d mark with
  | some t => foreach t.body
  | none => -ESRCH

/-- `pool4db_foreach_sample`. -/
def pool4dbForeachSample (d : Pool4Db T) (mark : UInt32) (foreachSample : T → Int) : Int :=
  foreachIn d mark foreachSample

/-- `pool4db_foreach_port`. -/
def pool4dbForeachPort (d : Pool4Db T) (mark : UInt32) (foreachPort : T → Int) : Int :=
  foreachIn d mark foreachPort

/-- `pool4db_destroy`: the loop over `i < slots()` empties each bucket from its head, handing
    every table it unlinks to `pool4table_destroy`, and the bucket array is freed. The tables
    destroyed, in order. -/
def pool4dbDestroy (d : Pool4Db T) : List (Pool4Table T) := visited d

/-- The states `db.c` reaches after a successful `pool4db_init`, whatever the `pool4table_*`
    functions do at each call. -/
inductive DbRun : Pool4Db T → Prop where
  | init {d : Pool4Db T} : (pool4dbInit true).2 = some d → DbRun d
  | add {d : Pool4Db T} (mark : UInt32) (create : Option T) (add : T → Int × T) :
      DbRun d → DbRun (pool4dbAdd d mark create add).2
  | rm {d : Pool4Db T} (mark : UInt32) (rm : T → Int × T) :
      DbRun d → DbRun (pool4dbRm d mark rm).2
  | flush {d : Pool4Db T} (mark : UInt32) (flush : T → T) :
      DbRun d → DbRun (pool4dbFlush d mark flush).2

end Jool.Db
