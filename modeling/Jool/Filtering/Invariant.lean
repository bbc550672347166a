-- SUMMARY: The consistency of the BIB and session store: the indices, the session lists and the expiry queues agree with the heap, and every operation of a successful run keeps them so.
import Mathlib.Data.List.Pairwise
import Jool.Filtering.Steps

/-!
# A consistent store

`StoreOk` says that the store's pointers agree with its heap:

* bucket `i` of `hash6` holds, up to order, exactly the live BIBs whose remote IPv6 transport
  address hashes to `i`, and likewise `hash4` by local port;
* the session lists of the live BIBs, taken together, hold every live session exactly once,
  and so do the five expiry queues;
* a BIB's session list is never empty, and each session agrees with its BIB on the four
  transport-address fields they share;
* addresses are distinct, and below the next one allocation hands out.

Each primitive change of the store is checked once, then each operation, and `Reach.storeOk`
carries the invariant over every run made of successful calls.
-/

open scoped List

namespace Jool.Filtering

namespace Store

variable (st : Store)

/-- What bucket `i` of `hash6` should hold: the BIBs whose remote IPv6 transport address
    hashes to `i`. -/
def bucket6 (i : Nat) : List Nat :=
  (st.bibs.filter fun p => (nat64Hash6 p.2.remote6Addr p.2.remote6Port).toNat = i).map (·.1)

/-- What bucket `i` of `hash4` should hold: the BIBs whose local port is `i`. -/
def bucket4 (i : Nat) : List Nat := (st.bibs.filter fun p => p.2.local4Port.toNat = i).map (·.1)

/-- The session lists of all BIBs, one after the other. -/
def listed : List Nat := st.bibs.flatMap (·.2.sessions)

/-- The five expiry queues, one after the other. -/
def queued : List Nat := ExpiryType.all.flatMap st.queue

end Store

/-- A session agrees with its BIB on the transport addresses they share. -/
def SameEnds (b : BibEntry) (e : StEntry) : Prop :=
  e.remote6Addr = b.remote6Addr ∧ e.remote6Port = b.remote6Port ∧ e.local4Addr = b.local4Addr ∧
    e.local4Port = b.local4Port

/-- The store is consistent. -/
structure StoreOk (st : Store) : Prop where
  bibIds_nodup : st.bibIds.Nodup
  sessionIds_nodup : st.sessionIds.Nodup
  bib_lt : ∀ b ∈ st.bibIds, b < st.next
  session_lt : ∀ s ∈ st.sessionIds, s < st.next
  hash6_perm : ∀ i, st.hash6 i ~ st.bucket6 i
  hash4_perm : ∀ i, st.hash4 i ~ st.bucket4 i
  listed_perm : st.listed ~ st.sessionIds
  queued_perm : st.queued ~ st.sessionIds
  sessions_ne : ∀ p ∈ st.bibs, p.2.sessions ≠ []
  same_ends : ∀ p ∈ st.bibs, ∀ s ∈ p.2.sessions, ∀ e, (s, e) ∈ st.sessions → SameEnds p.2 e

-- ---------------------------------------------------------------------------
-- Lists of lists
-- ---------------------------------------------------------------------------

section Lists

variable {α β : Type}

/-- Erasing an element from every block erases it from the whole, when it is there once. -/
theorem flatMap_erase_perm [DecidableEq α] {l : List β} {f : β → List α} (h : (l.flatMap f).Nodup) (a : α) :
    (l.flatMap fun x => (f x).erase a) ~ (l.flatMap f).erase a := by
  induction l with
  | nil => simp
  | cons x l ih =>
    rw [List.flatMap_cons, List.nodup_append] at h
    rw [List.flatMap_cons, List.flatMap_cons]
    by_cases ha : a ∈ f x
    · rw [List.erase_append_left _ ha, List.flatMap_congr fun y hy =>
        List.erase_of_not_mem fun hy' => h.2.2 ha (List.mem_flatMap.2 ⟨y, hy, hy'⟩)]
    · rw [List.erase_of_not_mem ha, List.erase_append_right _ ha]
      exact (ih h.2.1).append_left _

/-- Appending an element to one block adds it to the whole. -/
theorem flatMap_append_perm [DecidableEq β] {l : List β} {f : β → List α} {t : β} (ht : t ∈ l)
    (hl : l.Nodup) (a : α) :
    (l.flatMap fun x => if x = t then f x ++ [a] else f x) ~ a :: l.flatMap f := by
  induction l with
  | nil => cases ht
  | cons x l ih =>
    rw [List.nodup_cons] at hl
    rw [List.flatMap_cons, List.flatMap_cons]
    by_cases hx : x = t
    · subst hx
      rw [if_pos rfl, List.flatMap_congr fun y hy => if_neg fun (h : y = x) => hl.1 (h ▸ hy),
        List.append_assoc, List.singleton_append]
      exact List.perm_middle
    · rw [if_neg hx]
      exact ((ih ((List.mem_cons.1 ht).resolve_left (Ne.symm hx)) hl.2).append_left _).trans
        List.perm_middle

theorem nodup_append_singleton {l : List α} {a : α} (h : l.Nodup) (ha : a ∉ l) :
    (l ++ [a]).Nodup :=
  List.nodup_append.2 ⟨h, List.nodup_singleton _, List.disjoint_singleton.2 ha⟩

/-- An address below a bound, or the bound itself, is below the next one. -/
theorem lt_succ_of_mem_append {l : List Nat} {n x : Nat} (h : ∀ y ∈ l, y < n)
    (hx : x ∈ l ++ [n]) : x < n + 1 := by
  rcases List.mem_append.1 hx with hx | hx
  · exact Nat.lt_succ_of_lt (h x hx)
  · rw [List.mem_singleton.1 hx]
    exact Nat.lt_succ_self n

/-- An index kept in step with the BIBs, once a new BIB is linked at the head of the bucket of
    its key. -/
theorem perm_link {idx bucket : Nat → List Nat} (h : ∀ i, idx i ~ bucket i) (k n i : Nat) :
    (if i = k then n :: idx i else idx i) ~ bucket i ++ if k = i then [n] else [] := by
  by_cases hi : i = k
  · rw [if_pos hi, if_pos hi.symm]
    exact ((h i).cons _).trans (List.perm_append_singleton _ _).symm
  · rw [if_neg hi, if_neg (Ne.symm hi), List.append_nil]
    exact h i

theorem eq_singleton_of_erase_eq_nil [DecidableEq α] {l : List α} {a : α} (ha : a ∈ l) (h : l.erase a = []) :
    l = [a] := by
  have hlen := List.length_erase_of_mem ha
  rw [h, List.length_nil] at hlen
  obtain ⟨b, rfl⟩ : ∃ b, l = [b] := List.length_eq_one.1 (by
    have := List.length_pos_of_mem ha
    omega)
  rw [List.mem_singleton.1 ha]

end Lists

-- ---------------------------------------------------------------------------
-- The views of the store under each primitive
-- ---------------------------------------------------------------------------

namespace Store

variable {st : Store}

theorem mem_sessions_updSession {s s' : Nat} {f : StEntry → StEntry} {e' : StEntry}
    (h : (s', e') ∈ (st.updSession s f).sessions) :
    ∃ e, (s', e) ∈ st.sessions ∧ e' = if s' = s then f e else e := by
  obtain ⟨⟨k, e⟩, he, hk⟩ := List.mem_map.1 h
  have hk' : (k, if k = s then f e else e) = (s', e') := by rw [← hk]; split <;> rfl
  obtain ⟨rfl, rfl⟩ := Prod.mk.inj hk'
  exact ⟨e, he, rfl⟩

theorem mem_bibs_updBib {b b' : Nat} {g : BibEntry → BibEntry} {e' : BibEntry}
    (h : (b', e') ∈ (st.updBib b g).bibs) : ∃ e, (b', e) ∈ st.bibs ∧ e' = if b' = b then g e else e := by
  obtain ⟨⟨k, e⟩, he, hk⟩ := List.mem_map.1 h
  have hk' : (k, if k = b then g e else e) = (b', e') := by rw [← hk]; split <;> rfl
  obtain ⟨rfl, rfl⟩ := Prod.mk.inj hk'
  exact ⟨e, he, rfl⟩

@[simp] theorem sessionIds_updSession (s : Nat) (f : StEntry → StEntry) :
    (st.updSession s f).sessionIds = st.sessionIds := by
  simp only [sessionIds, updSession, List.map_map]
  exact List.map_congr_left fun e _ => by by_cases h : e.1 = s <;> simp [h]

@[simp] theorem bibIds_updBib (b : Nat) (g : BibEntry → BibEntry) :
    (st.updBib b g).bibIds = st.bibIds := by
  simp only [bibIds, updBib, List.map_map]
  exact List.map_congr_left fun e _ => by by_cases h : e.1 = b <;> simp [h]

theorem sessionIds_freeSession (h : st.sessionIds.Nodup) (s : Nat) :
    (st.freeSession s).sessionIds = st.sessionIds.erase s := by
  rw [h.erase_eq_filter, sessionIds, sessionIds, freeSession_sessions, List.filter_map]
  congr 1
  exact List.filter_congr fun e _ => by by_cases h : e.1 = s <;> simp [h]

theorem bibIds_freeBib (h : st.bibIds.Nodup) (b : Nat) :
    (st.freeBib b).bibIds = st.bibIds.erase b := by
  rw [h.erase_eq_filter, bibIds, bibIds, freeBib_bibs, List.filter_map]
  congr 1
  exact List.filter_congr fun e _ => by by_cases h : e.1 = b <;> simp [h]

/-- A write to a BIB that keeps its transport addresses leaves the buckets alone. -/
theorem bucket6_updBib {b : Nat} {g : BibEntry → BibEntry}
    (hg : ∀ e, (g e).remote6Addr = e.remote6Addr ∧ (g e).remote6Port = e.remote6Port) (i : Nat) :
    (st.updBib b g).bucket6 i = st.bucket6 i := by
  simp only [bucket6, updBib, List.filter_map, List.map_map]
  congr 1
  · funext e; by_cases h : e.1 = b <;> simp [h]
  · congr 1; funext e; by_cases h : e.1 = b <;> simp [h, hg]

theorem bucket4_updBib {b : Nat} {g : BibEntry → BibEntry}
    (hg : ∀ e, (g e).local4Port = e.local4Port) (i : Nat) :
    (st.updBib b g).bucket4 i = st.bucket4 i := by
  simp only [bucket4, updBib, List.filter_map, List.map_map]
  congr 1
  · funext e; by_cases h : e.1 = b <;> simp [h]
  · congr 1; funext e; by_cases h : e.1 = b <;> simp [h, hg]

theorem bucket6_freeBib (h : st.bibIds.Nodup) (b i : Nat) :
    (st.freeBib b).bucket6 i = (st.bucket6 i).erase b := by
  have hnd : (st.bucket6 i).Nodup := (h.sublist ((List.filter_sublist _).map _))
  rw [hnd.erase_eq_filter, bucket6, bucket6, freeBib_bibs, List.filter_map, List.filter_filter,
    List.filter_filter]
  congr 1
  exact List.filter_congr fun e _ => by by_cases h : e.1 = b <;> simp [h]

theorem bucket4_freeBib (h : st.bibIds.Nodup) (b i : Nat) :
    (st.freeBib b).bucket4 i = (st.bucket4 i).erase b := by
  have hnd : (st.bucket4 i).Nodup := (h.sublist ((List.filter_sublist _).map _))
  rw [hnd.erase_eq_filter, bucket4, bucket4, freeBib_bibs, List.filter_map, List.filter_filter,
    List.filter_filter]
  congr 1
  exact List.filter_congr fun e _ => by by_cases h : e.1 = b <;> simp [h]

theorem queued_delExpiry (h : st.queued.Nodup) (s : Nat) :
    (st.delExpiry s).queued ~ st.queued.erase s :=
  flatMap_erase_perm h s

theorem queued_addTailExpiry (s : Nat) (type : ExpiryType) :
    (st.addTailExpiry s type).queued ~ s :: st.queued := by
  have hq : (st.addTailExpiry s type).queue =
      fun q => if q = type then st.queue q ++ [s] else st.queue q :=
    funext (queue_addTailExpiry st s type)
  rw [queued, queued, hq]
  exact flatMap_append_perm (ExpiryType.mem_all type) (by decide) s

theorem queued_addTailExpiry_perm {ids : List Nat} (hq : st.queued ~ ids) (s : Nat)
    (type : ExpiryType) : (st.addTailExpiry s type).queued ~ ids ++ [s] :=
  (queued_addTailExpiry s type).trans ((hq.cons s).trans (List.perm_append_singleton _ _).symm)

@[simp] theorem queued_updSession (s : Nat) (f : StEntry → StEntry) :
    (st.updSession s f).queued = st.queued := rfl
@[simp] theorem queued_updBib (b : Nat) (g : BibEntry → BibEntry) :
    (st.updBib b g).queued = st.queued := rfl
@[simp] theorem queued_unlinkBib (b : Nat) : (st.unlinkBib b).queued = st.queued := rfl
@[simp] theorem queued_freeBib (b : Nat) : (st.freeBib b).queued = st.queued := rfl
@[simp] theorem queued_freeSession (s : Nat) : (st.freeSession s).queued = st.queued := rfl

section Rfl

variable (st : Store) (s b i6 i4 : Nat) (f : StEntry → StEntry) (g : BibEntry → BibEntry)
  (e : StEntry) (be : BibEntry) (type : ExpiryType)

@[simp] theorem bibIds_allocBib : (st.allocBib be).bibIds = st.bibIds ++ [st.next] := by
  simp [bibIds]
@[simp] theorem sessionIds_allocSession :
    (st.allocSession e).sessionIds = st.sessionIds ++ [st.next] := by
  simp [sessionIds]

@[simp] theorem bibIds_allocSession : (st.allocSession e).bibIds = st.bibIds := rfl
@[simp] theorem bibIds_linkBib : (st.linkBib b i6 i4).bibIds = st.bibIds := rfl
@[simp] theorem bibIds_addTailExpiry : (st.addTailExpiry s type).bibIds = st.bibIds := rfl
@[simp] theorem bibIds_delExpiry : (st.delExpiry s).bibIds = st.bibIds := rfl
@[simp] theorem bibIds_updSession : (st.updSession s f).bibIds = st.bibIds := rfl
@[simp] theorem bibIds_unlinkBib : (st.unlinkBib b).bibIds = st.bibIds := rfl
@[simp] theorem bibIds_freeSession : (st.freeSession s).bibIds = st.bibIds := rfl

@[simp] theorem sessionIds_allocBib : (st.allocBib be).sessionIds = st.sessionIds := rfl
@[simp] theorem sessionIds_linkBib : (st.linkBib b i6 i4).sessionIds = st.sessionIds := rfl
@[simp] theorem sessionIds_addTailExpiry : (st.addTailExpiry s type).sessionIds = st.sessionIds := rfl
@[simp] theorem sessionIds_delExpiry : (st.delExpiry s).sessionIds = st.sessionIds := rfl
@[simp] theorem sessionIds_updBib : (st.updBib b g).sessionIds = st.sessionIds := rfl
@[simp] theorem sessionIds_unlinkBib : (st.unlinkBib b).sessionIds = st.sessionIds := rfl
@[simp] theorem sessionIds_freeBib : (st.freeBib b).sessionIds = st.sessionIds := rfl

@[simp] theorem bucket6_allocSession : (st.allocSession e).bucket6 = st.bucket6 := rfl
@[simp] theorem bucket6_linkBib : (st.linkBib b i6 i4).bucket6 = st.bucket6 := rfl
@[simp] theorem bucket6_addTailExpiry : (st.addTailExpiry s type).bucket6 = st.bucket6 := rfl
@[simp] theorem bucket6_delExpiry : (st.delExpiry s).bucket6 = st.bucket6 := rfl
@[simp] theorem bucket6_updSession : (st.updSession s f).bucket6 = st.bucket6 := rfl
@[simp] theorem bucket6_unlinkBib : (st.unlinkBib b).bucket6 = st.bucket6 := rfl
@[simp] theorem bucket6_freeSession : (st.freeSession s).bucket6 = st.bucket6 := rfl

@[simp] theorem bucket4_allocSession : (st.allocSession e).bucket4 = st.bucket4 := rfl
@[simp] theorem bucket4_linkBib : (st.linkBib b i6 i4).bucket4 = st.bucket4 := rfl
@[simp] theorem bucket4_addTailExpiry : (st.addTailExpiry s type).bucket4 = st.bucket4 := rfl
@[simp] theorem bucket4_delExpiry : (st.delExpiry s).bucket4 = st.bucket4 := rfl
@[simp] theorem bucket4_updSession : (st.updSession s f).bucket4 = st.bucket4 := rfl
@[simp] theorem bucket4_unlinkBib : (st.unlinkBib b).bucket4 = st.bucket4 := rfl
@[simp] theorem bucket4_freeSession : (st.freeSession s).bucket4 = st.bucket4 := rfl

@[simp] theorem listed_allocBib : (st.allocBib be).listed = st.listed ++ be.sessions := by
  simp [listed]
@[simp] theorem listed_allocSession : (st.allocSession e).listed = st.listed := rfl
@[simp] theorem listed_linkBib : (st.linkBib b i6 i4).listed = st.listed := rfl
@[simp] theorem listed_addTailExpiry : (st.addTailExpiry s type).listed = st.listed := rfl
@[simp] theorem listed_delExpiry : (st.delExpiry s).listed = st.listed := rfl
@[simp] theorem listed_updSession : (st.updSession s f).listed = st.listed := rfl
@[simp] theorem listed_unlinkBib : (st.unlinkBib b).listed = st.listed := rfl
@[simp] theorem listed_freeSession : (st.freeSession s).listed = st.listed := rfl

@[simp] theorem queued_allocSession : (st.allocSession e).queued = st.queued := rfl
@[simp] theorem queued_allocBib : (st.allocBib be).queued = st.queued := rfl
@[simp] theorem queued_linkBib : (st.linkBib b i6 i4).queued = st.queued := rfl

theorem bucket6_allocBib (i : Nat) :
    (st.allocBib be).bucket6 i =
      st.bucket6 i ++ if (nat64Hash6 be.remote6Addr be.remote6Port).toNat = i then [st.next] else [] := by
  simp only [bucket6, allocBib_bibs, List.filter_append, List.map_append]
  split <;> simp [*]

theorem bucket4_allocBib (i : Nat) :
    (st.allocBib be).bucket4 i = st.bucket4 i ++ if be.local4Port.toNat = i then [st.next] else [] := by
  simp only [bucket4, allocBib_bibs, List.filter_append, List.map_append]
  split <;> simp [*]

end Rfl

theorem listed_updBib_split {pre post : List (Nat × BibEntry)} {b : Nat} {e : BibEntry}
    (hsplit : st.bibs = pre ++ (b, e) :: post) (hpre : b ∉ pre.map (·.1))
    (hpost : b ∉ post.map (·.1)) (g : BibEntry → BibEntry) :
    (st.updBib b g).listed =
      pre.flatMap (·.2.sessions) ++ (g e).sessions ++ post.flatMap (·.2.sessions) := by
  simp only [listed, updBib, hsplit, map_upd_split g hpre hpost, List.flatMap_append,
    List.flatMap_cons, List.append_assoc]

end Store

namespace Store

theorem exists_bib? {st : Store} {b : Nat} (hb : b ∈ st.bibIds) : ∃ e, st.bib? b = some e ∧ (b, e) ∈ st.bibs := by
  cases he : st.bib? b with
  | none => exact absurd hb (Store.bib?_eq_none.1 he)
  | some e => exact ⟨e, rfl, Store.mem_of_bib? he⟩

/-- A session added at `next` is not in the heap before: an entry of the new heap at an older
    address is an old one. -/
theorem mem_sessions_of_lt {st : Store} {s n : Nat} {e ns : StEntry} (hlt : s < st.next)
    (he : (s, e) ∈ st.sessions ++ [(n, ns)]) (hn : st.next ≤ n) : (s, e) ∈ st.sessions := by
  rcases List.mem_append.1 he with he | he
  · exact he
  · obtain ⟨rfl, -⟩ := Prod.mk.inj (List.mem_singleton.1 he)
    omega

end Store

-- ---------------------------------------------------------------------------
-- Each operation keeps the store consistent
-- ---------------------------------------------------------------------------

namespace StoreOk

variable {st : Store} (h : StoreOk st)
include h

theorem queued_nodup : st.queued.Nodup := h.queued_perm.nodup_iff.2 h.sessionIds_nodup

theorem listed_nodup : st.listed.Nodup := h.listed_perm.nodup_iff.2 h.sessionIds_nodup

/-- Two entries of the BIB heap at one address are one entry. -/
theorem bib_unique {b : Nat} {e e' : BibEntry} (he : (b, e) ∈ st.bibs) (he' : (b, e') ∈ st.bibs) :
    e = e' :=
  (Prod.mk.inj (List.inj_on_of_nodup_map h.bibIds_nodup he he' rfl)).2

theorem session_unique {s : Nat} {e e' : StEntry} (he : (s, e) ∈ st.sessions)
    (he' : (s, e') ∈ st.sessions) : e = e' :=
  (Prod.mk.inj (List.inj_on_of_nodup_map h.sessionIds_nodup he he' rfl)).2

/-- A session some BIB lists is live. -/
theorem mem_sessionIds_of_listed {p : Nat × BibEntry} (hp : p ∈ st.bibs) {s : Nat}
    (hs : s ∈ p.2.sessions) : s ∈ st.sessionIds :=
  h.listed_perm.subset (List.mem_flatMap.2 ⟨p, hp, hs⟩)

/-- A write to session fields other than the transport addresses. -/
theorem updSession {s : Nat} {f : StEntry → StEntry} (hf : ∀ b e, SameEnds b e → SameEnds b (f e)) :
    StoreOk (st.updSession s f) where
  bibIds_nodup := h.bibIds_nodup
  sessionIds_nodup := by rw [Store.sessionIds_updSession]; exact h.sessionIds_nodup
  bib_lt := h.bib_lt
  session_lt := by rw [Store.sessionIds_updSession]; exact h.session_lt
  hash6_perm := h.hash6_perm
  hash4_perm := h.hash4_perm
  listed_perm := by rw [Store.sessionIds_updSession]; exact h.listed_perm
  queued_perm := by rw [Store.sessionIds_updSession, Store.queued_updSession]; exact h.queued_perm
  sessions_ne := h.sessions_ne
  same_ends p hp s' hs' e' he' := by
    obtain ⟨e, he, rfl⟩ := Store.mem_sessions_updSession he'
    have hends := h.same_ends p hp s' hs' e he
    split
    · exact hf _ _ hends
    · exact hends

/-- A live session moved to the tail of a queue. -/
theorem moveExpiry {s : Nat} (hs : s ∈ st.sessionIds) (type : ExpiryType) :
    StoreOk ((st.delExpiry s).addTailExpiry s type) where
  bibIds_nodup := h.bibIds_nodup
  sessionIds_nodup := h.sessionIds_nodup
  bib_lt := h.bib_lt
  session_lt := h.session_lt
  hash6_perm := h.hash6_perm
  hash4_perm := h.hash4_perm
  listed_perm := h.listed_perm
  queued_perm :=
    (Store.queued_addTailExpiry s type).trans (((Store.queued_delExpiry h.queued_nodup s).cons s).trans
      ((List.perm_cons_erase (h.queued_perm.symm.subset hs)).symm.trans h.queued_perm))
  sessions_ne := h.sessions_ne
  same_ends := h.same_ends

theorem sessionRenew {s : Nat} (hs : s ∈ st.sessionIds) (type : ExpiryType) :
    StoreOk (Filtering.sessionRenew st s type) :=
  (h.updSession (s := s) (f := fun e => { e with expires := st.deadline type })
    fun _ _ he => he).moveExpiry (by simpa using hs) type

theorem setState (s : Nat) (state : StateType) : StoreOk (Filtering.setState st s state) :=
  h.updSession fun _ _ he => he

theorem fsmEffect {s : Nat} (hs : s ∈ st.sessionIds) {st' : Store} (he : FsmEffect st s st') :
    StoreOk st' := by
  cases he with
  | stay => exact h
  | setState state => exact h.setState s state
  | renew type => exact h.sessionRenew hs type
  | renewTo type state =>
    exact (h.sessionRenew hs type).setState s state

/-- `session_create` on a live BIB. -/
theorem sessionCreate {bib : Nat} (hb : bib ∈ st.bibIds) (in6Daddr : In6Addr) (addr : UInt32)
    (port : UInt16) (type : ExpiryType) (allocOk : Bool) :
    StoreOk (Filtering.sessionCreate st bib in6Daddr addr port type allocOk).2 := by
  cases allocOk with
  | false => exact h
  | true =>
  obtain ⟨B, hB, hmem⟩ := Store.exists_bib? hb
  obtain ⟨pre, post, hsplit, hpre, hpost⟩ := split_of_mem h.bibIds_nodup hmem
  rw [sessionCreate_of_bib? hB]
  set g : BibEntry → BibEntry := fun e => { e with sessions := st.next :: e.sessions }
  set ns := newSession B in6Daddr addr port (st.deadline type)
  have hfresh : st.next ∉ st.sessionIds := fun hn => Nat.lt_irrefl _ (h.session_lt _ hn)
  have hlisted : ((st.allocSession ns).updBib bib g).listed ~ st.next :: st.listed := by
    rw [Store.listed_updBib_split (by simpa using hsplit) hpre hpost, Store.listed, hsplit,
      List.flatMap_append, List.flatMap_cons]
    simp only [g, List.append_assoc, List.cons_append]
    exact List.perm_middle
  constructor
  · simpa using h.bibIds_nodup
  · simpa using nodup_append_singleton h.sessionIds_nodup hfresh
  · exact fun b hb' => Nat.lt_succ_of_lt (h.bib_lt b (by simpa using hb'))
  · exact fun s hs => lt_succ_of_mem_append h.session_lt (by simpa using hs)
  · intro i
    simpa [Store.bucket6_updBib (g := g) (fun _ => ⟨rfl, rfl⟩)] using h.hash6_perm i
  · intro i
    simpa [Store.bucket4_updBib (g := g) (fun _ => rfl)] using h.hash4_perm i
  · simp only [Store.listed_addTailExpiry, Store.sessionIds_addTailExpiry,
      Store.sessionIds_updBib, Store.sessionIds_allocSession]
    exact hlisted.trans ((h.listed_perm.cons _).trans (List.perm_append_singleton _ _).symm)
  · rw [Store.sessionIds_addTailExpiry, Store.sessionIds_updBib, Store.sessionIds_allocSession]
    exact Store.queued_addTailExpiry_perm h.queued_perm _ _
  · intro ⟨pb, pe⟩ hp
    obtain ⟨e, he, hpe⟩ := Store.mem_bibs_updBib (by simpa using hp)
    rw [hpe]
    split
    · simp [g]
    · exact h.sessions_ne _ he
  · intro ⟨pb, pe⟩ hp s hs e' he'
    obtain ⟨e, he, hpe⟩ := Store.mem_bibs_updBib (by simpa using hp)
    rw [hpe] at hs ⊢
    simp only [Store.addTailExpiry_sessions, Store.updBib_sessions, Store.allocSession_sessions] at he'
    split at hs
    · next hpb =>
      have heB : e = B := h.bib_unique (hpb ▸ he) hmem
      subst heB
      simp only [g, if_pos hpb]
      rcases List.mem_cons.1 hs with rfl | hs
      · rcases List.mem_append.1 he' with he' | he'
        · exact absurd (List.mem_map_of_mem Prod.fst he') hfresh
        · obtain ⟨-, rfl⟩ := Prod.mk.inj (List.mem_singleton.1 he')
          exact ⟨rfl, rfl, rfl, rfl⟩
      · exact h.same_ends _ hmem s hs e' (Store.mem_sessions_of_lt
          (h.session_lt _ (h.mem_sessionIds_of_listed hmem hs)) he' le_rfl)
    · next hpb =>
      rw [if_neg hpb]
      exact h.same_ends _ he s hs e' (Store.mem_sessions_of_lt
        (h.session_lt _ (h.mem_sessionIds_of_listed he hs)) he' le_rfl)

/-- A successful `bib_session_create`. -/
theorem bibSessionCreate (saddr in6Daddr : In6Addr) (daddr : UInt32) (sport dport : UInt16)
    (protocol : Int) (type : ExpiryType) (ta : Option TransportAddr) :
    StoreOk (Filtering.bibSessionCreate st saddr in6Daddr daddr sport dport protocol type ta
      true true).2 := by
  have hfreshB : st.next ∉ st.bibIds := fun hn => Nat.lt_irrefl _ (h.bib_lt _ hn)
  have hltS : ∀ x ∈ st.sessionIds, x < st.next + 1 := fun x hx =>
    Nat.lt_succ_of_lt (h.session_lt x hx)
  have hfreshS : st.next + 1 ∉ st.sessionIds := fun hx => Nat.lt_irrefl _ (hltS _ hx)
  rw [bibSessionCreate_eq hfreshB]
  dsimp only
  set B := createdBib saddr sport protocol ta
  set g : BibEntry → BibEntry := fun e => { e with sessions := (st.next + 1) :: e.sessions }
  set ns := newSession B in6Daddr daddr dport (st.deadline type)
  have hbibs : (((st.allocBib B).linkBib st.next (nat64Hash6 saddr sport).toNat
      (local4Of ta).1.toNat).allocSession ns |>.updBib st.next g).bibs = st.bibs ++ [(st.next, g B)] := by
    simp only [Store.updBib, Store.allocSession_bibs, Store.linkBib_bibs, Store.allocBib_bibs,
      List.map_append, map_upd_of_not_mem g hfreshB]
    simp
  constructor
  · simpa using nodup_append_singleton h.bibIds_nodup hfreshB
  · simpa using nodup_append_singleton h.sessionIds_nodup hfreshS
  · exact fun b hb => Nat.lt_succ_of_lt (lt_succ_of_mem_append h.bib_lt (by simpa using hb))
  · exact fun s hs => lt_succ_of_mem_append hltS (by simpa using hs)
  · intro i
    rw [Store.bucket6_addTailExpiry, Store.bucket6_updBib (g := g) (fun _ => ⟨rfl, rfl⟩),
      Store.bucket6_allocSession, Store.bucket6_linkBib, Store.bucket6_allocBib]
    exact perm_link h.hash6_perm _ _ i
  · intro i
    rw [Store.bucket4_addTailExpiry, Store.bucket4_updBib (g := g) (fun _ => rfl),
      Store.bucket4_allocSession, Store.bucket4_linkBib, Store.bucket4_allocBib]
    exact perm_link h.hash4_perm _ _ i
  · rw [Store.listed_addTailExpiry, Store.listed, hbibs]
    simpa [Store.sessionIds, Store.listed, g, B, createdBib] using
      h.listed_perm.append_right [st.next + 1]
  · simp only [Store.sessionIds_addTailExpiry, Store.sessionIds_updBib,
      Store.sessionIds_allocSession, Store.sessionIds_linkBib, Store.sessionIds_allocBib,
      Store.allocBib_next, Store.linkBib_next]
    exact Store.queued_addTailExpiry_perm h.queued_perm _ _
  · intro p hp
    rw [Store.addTailExpiry_bibs, hbibs, List.mem_append, List.mem_singleton] at hp
    rcases hp with hp | rfl
    · exact h.sessions_ne p hp
    · simp [g]
  · intro p hp s hs e' he'
    rw [Store.addTailExpiry_bibs, hbibs, List.mem_append, List.mem_singleton] at hp
    simp only [Store.addTailExpiry_sessions, Store.updBib_sessions, Store.allocSession_sessions,
      Store.linkBib_sessions, Store.allocBib_sessions, Store.linkBib_next,
      Store.allocBib_next] at he'
    rcases hp with hp | rfl
    · exact h.same_ends p hp s hs e' (Store.mem_sessions_of_lt
        (h.session_lt _ (h.mem_sessionIds_of_listed hp hs)) he' (Nat.le_succ _))
    · simp only [g, B, createdBib, List.mem_singleton] at hs
      subst hs
      rcases List.mem_append.1 he' with he' | he'
      · exact absurd (List.mem_map_of_mem Prod.fst he') hfreshS
      · obtain ⟨-, rfl⟩ := Prod.mk.inj (List.mem_singleton.1 he')
        exact ⟨rfl, rfl, rfl, rfl⟩

theorem hash6_nodup (i : Nat) : (st.hash6 i).Nodup :=
  (h.hash6_perm i).nodup_iff.2 (h.bibIds_nodup.sublist ((List.filter_sublist _).map _))

theorem hash4_nodup (i : Nat) : (st.hash4 i).Nodup :=
  (h.hash4_perm i).nodup_iff.2 (h.bibIds_nodup.sublist ((List.filter_sublist _).map _))

/-- A live session is on the list of one BIB only. -/
theorem owner_unique {s : Nat} {p q : Nat × BibEntry} (hp : p ∈ st.bibs) (hq : q ∈ st.bibs)
    (hsp : s ∈ p.2.sessions) (hsq : s ∈ q.2.sessions) : p = q := by
  by_contra hne
  have hsymm : Symmetric (List.Disjoint on fun p : Nat × BibEntry => p.2.sessions) :=
    fun _ _ hd _ h1 h2 => hd h2 h1
  exact (List.nodup_flatMap.1 h.listed_nodup).2.forall hsymm hp hq hne hsp hsq

/-- The reaper's search for the BIB of a session finds the one whose list holds it. -/
theorem find?_owner {b s : Nat} {e : BibEntry} (hbe : (b, e) ∈ st.bibs) (hse : s ∈ e.sessions) :
    st.bibs.find? (fun p => p.2.sessions.contains s) = some (b, e) := by
  cases hf : st.bibs.find? (fun p => p.2.sessions.contains s) with
  | none => exact absurd (List.find?_eq_none.1 hf _ hbe) (by simpa using hse)
  | some q =>
    rw [h.owner_unique (List.mem_of_find?_eq_some hf) hbe (by simpa using List.find?_some hf) hse]

/-- The removal of a live session, and of its BIB when it was the last on the BIB's list. -/
theorem reapSession {s : Nat} (hs : s ∈ st.sessionIds) : StoreOk (Filtering.reapSession st s) := by
  obtain ⟨⟨b, e⟩, hbe, hse⟩ := List.mem_flatMap.1 (h.listed_perm.symm.subset hs)
  obtain ⟨pre, post, hsplit, hpre, hpost⟩ := split_of_mem h.bibIds_nodup hbe
  rw [reapSession_of_find? (h.find?_owner hbe hse)]
  set g : BibEntry → BibEntry := fun e' => { e' with sessions := e'.sessions.erase s }
  set st2 := (st.delExpiry s).updBib b g
  have hbibs2 : st2.bibs = pre ++ (b, g e) :: post := by
    simp only [st2, Store.updBib, Store.delExpiry_bibs, hsplit, map_upd_split g hpre hpost]
  have hmem2 : ∀ p ∈ st2.bibs, p = (b, g e) ∨ p ∈ st.bibs := by
    intro p hp
    rw [hbibs2, List.mem_append, List.mem_cons] at hp
    rw [hsplit, List.mem_append, List.mem_cons]
    rcases hp with hp | hp | hp
    · exact .inr (.inl hp)
    · exact .inl hp
    · exact .inr (.inr (.inr hp))
  have hlisted2 : st2.listed = st.listed.erase s := by
    have hnd := h.listed_nodup
    rw [Store.listed, hsplit, List.flatMap_append, List.flatMap_cons] at hnd
    have hspre : s ∉ pre.flatMap (·.2.sessions) := fun hm =>
      List.nodup_append.1 hnd |>.2.2 hm (List.mem_append_left _ hse)
    rw [Store.listed_updBib_split (show (st.delExpiry s).bibs = _ from hsplit) hpre hpost, Store.listed, hsplit,
      List.flatMap_append, List.flatMap_cons, List.erase_append_right _ hspre,
      List.erase_append_left _ hse, List.append_assoc]
  have hsid : ∀ X : Store, X.sessions = st.sessions →
      (X.freeSession s).sessionIds = st.sessionIds.erase s := fun X hX => by
    rw [Store.sessionIds_freeSession (by rw [Store.sessionIds, hX]; exact h.sessionIds_nodup),
      Store.sessionIds, hX]; rfl
  have hqueued : st2.queued ~ st.sessionIds.erase s :=
    (Store.queued_delExpiry h.queued_nodup s).trans (h.queued_perm.erase s)
  have hsess : ∀ X : Store, X.sessions = st.sessions → ∀ x ∈ (X.freeSession s).sessions,
      x ∈ st.sessions := fun X hX x hx => hX ▸ (List.mem_filter.1 hx).1
  have hlt : ∀ x ∈ st.sessionIds.erase s, x < st.next := fun x hx =>
    h.session_lt x (List.mem_of_mem_erase hx)
  split
  · next hone =>
    have hnd2 : (st2.unlinkBib b).bibIds.Nodup := by simpa [st2] using h.bibIds_nodup
    have hbibs3 : ((st2.unlinkBib b).freeBib b).bibs = pre ++ post := by
      rw [Store.freeBib_bibs, Store.unlinkBib_bibs, hbibs2, filter_split hpre hpost]
    have hmem3 : ∀ p ∈ pre ++ post, p ∈ st.bibs := fun p hp => by
      rw [hsplit, List.mem_append, List.mem_cons]
      rcases List.mem_append.1 hp with hp | hp
      · exact .inl hp
      · exact .inr (.inr hp)
    have hids : ((st2.unlinkBib b).freeBib b).bibIds = st.bibIds.erase b := by
      rw [Store.bibIds_freeBib hnd2]
      simp [st2]
    constructor
    · rw [Store.bibIds_freeSession, hids]
      exact h.bibIds_nodup.erase b
    · rw [hsid ((st2.unlinkBib b).freeBib b) rfl]
      exact h.sessionIds_nodup.erase s
    · intro x hx
      rw [Store.bibIds_freeSession, hids] at hx
      exact h.bib_lt x (List.mem_of_mem_erase hx)
    · intro x hx
      rw [hsid ((st2.unlinkBib b).freeBib b) rfl] at hx
      exact hlt x hx
    · intro i
      rw [Store.bucket6_freeSession, Store.bucket6_freeBib hnd2, Store.bucket6_unlinkBib,
        Store.bucket6_updBib (g := g) (fun _ => ⟨rfl, rfl⟩), Store.bucket6_delExpiry]
      exact (h.hash6_perm i).erase b
    · intro i
      rw [Store.bucket4_freeSession, Store.bucket4_freeBib hnd2, Store.bucket4_unlinkBib,
        Store.bucket4_updBib (g := g) (fun _ => rfl), Store.bucket4_delExpiry]
      exact (h.hash4_perm i).erase b
    · have hl : (((st2.unlinkBib b).freeBib b).freeSession s).listed = st2.listed := by
        rw [Store.listed, Store.listed, Store.freeSession_bibs, hbibs3, hbibs2]
        simp [g, hone]
      rw [hl, hlisted2, hsid ((st2.unlinkBib b).freeBib b) rfl]
      exact h.listed_perm.erase s
    · rw [hsid ((st2.unlinkBib b).freeBib b) rfl]
      exact hqueued
    · intro p hp
      rw [Store.freeSession_bibs, hbibs3] at hp
      exact h.sessions_ne p (hmem3 p hp)
    · intro p hp s' hs' e' he'
      rw [Store.freeSession_bibs, hbibs3] at hp
      exact h.same_ends p (hmem3 p hp) s' hs' e' (hsess _ rfl _ he')
  · next hne =>
    constructor
    · simpa [st2] using h.bibIds_nodup
    · rw [hsid st2 rfl]
      exact h.sessionIds_nodup.erase s
    · simpa [st2] using h.bib_lt
    · intro x hx
      rw [hsid st2 rfl] at hx
      exact hlt x hx
    · intro i
      rw [Store.bucket6_freeSession, Store.bucket6_updBib (g := g) (fun _ => ⟨rfl, rfl⟩),
        Store.bucket6_delExpiry]
      exact h.hash6_perm i
    · intro i
      rw [Store.bucket4_freeSession, Store.bucket4_updBib (g := g) (fun _ => rfl),
        Store.bucket4_delExpiry]
      exact h.hash4_perm i
    · rw [Store.listed_freeSession, hlisted2, hsid st2 rfl]
      exact h.listed_perm.erase s
    · rw [hsid st2 rfl]
      exact hqueued
    · intro p hp
      rcases hmem2 p hp with rfl | hp
      · exact fun h0 => hne (eq_singleton_of_erase_eq_nil hse h0)
      · exact h.sessions_ne p hp
    · intro p hp s' hs' e' he'
      rcases hmem2 p hp with rfl | hp
      · exact h.same_ends _ hbe s' (List.mem_of_mem_erase hs') e' (hsess _ rfl _ he')
      · exact h.same_ends p hp s' hs' e' (hsess _ rfl _ he')

/-- What the removal does to the BIB of the removed session: it is freed and unlinked from
    both indices exactly when the session was the last on its list. -/
theorem reapSession_bib {b s : Nat} {e : BibEntry} (hbe : (b, e) ∈ st.bibs)
    (hse : s ∈ e.sessions) :
    (b ∈ (Filtering.reapSession st s).bibIds ↔ e.sessions ≠ [s]) ∧
    (∀ i, b ∈ (Filtering.reapSession st s).hash6 i ↔ b ∈ st.hash6 i ∧ e.sessions ≠ [s]) ∧
    (∀ i, b ∈ (Filtering.reapSession st s).hash4 i ↔ b ∈ st.hash4 i ∧ e.sessions ≠ [s]) := by
  rw [reapSession_of_find? (h.find?_owner hbe hse)]
  split
  · next hone =>
    have hnd : (((st.delExpiry s).updBib b fun e' => { e' with sessions := e'.sessions.erase s })
        |>.unlinkBib b).bibIds.Nodup := by simpa using h.bibIds_nodup
    simp only [hone, ne_eq, not_true_eq_false, and_false, iff_false]
    refine ⟨?_, fun i => (h.hash6_nodup i).not_mem_erase, fun i => (h.hash4_nodup i).not_mem_erase⟩
    rw [Store.bibIds_freeSession, Store.bibIds_freeBib hnd]
    simpa using h.bibIds_nodup.not_mem_erase
  · next hne =>
    simp only [hne, ne_eq, not_false_eq_true, and_true, iff_true]
    refine ⟨?_, fun _ => Iff.rfl, fun _ => Iff.rfl⟩
    simp only [Store.bibIds_freeSession, Store.bibIds_updBib, Store.bibIds_delExpiry]
    exact List.mem_map_of_mem Prod.fst hbe

theorem expireStep {s : Nat} (hs : s ∈ st.sessionIds) : StoreOk (Filtering.expireStep st s) := by
  rcases expireStep_eq_or st s with he | he <;> rw [he]
  · exact (h.sessionRenew hs _).setState _ _
  · exact h.reapSession hs

/-- A pass of the reaper over one queue. -/
theorem cleanLoop (q : ExpiryType) : StoreOk (Filtering.cleanLoop q st) :=
  cleanLoop_induction StoreOk (fun _ _ _ _ hok _ he _ =>
    hok.expireStep (List.mem_map_of_mem Prod.fst (Store.mem_of_session? he))) st h

theorem tick (d : Nat) : StoreOk (st.tick d) :=
  ⟨h.1, h.2, h.3, h.4, h.5, h.6, h.7, h.8, h.9, h.10⟩

theorem mem_hash6 (b i : Nat) :
    b ∈ st.hash6 i ↔ ∃ e, (b, e) ∈ st.bibs ∧ (nat64Hash6 e.remote6Addr e.remote6Port).toNat = i := by
  rw [(h.hash6_perm i).mem_iff, Store.bucket6]
  simp only [List.mem_map, List.mem_filter, decide_eq_true_eq, Prod.exists, exists_and_right,
    exists_eq_right]

theorem mem_hash4 (b i : Nat) :
    b ∈ st.hash4 i ↔ ∃ e, (b, e) ∈ st.bibs ∧ e.local4Port.toNat = i := by
  rw [(h.hash4_perm i).mem_iff, Store.bucket4]
  simp only [List.mem_map, List.mem_filter, decide_eq_true_eq, Prod.exists, exists_and_right,
    exists_eq_right]

end StoreOk

theorem storeOk_init (timeout : ExpiryType → Int) (hz longBits jiffies next : Nat) :
    StoreOk (Store.init timeout hz longBits jiffies next) where
  bibIds_nodup := List.nodup_nil
  sessionIds_nodup := List.nodup_nil
  bib_lt _ hb := (List.not_mem_nil _ hb).elim
  session_lt _ hs := (List.not_mem_nil _ hs).elim
  hash6_perm _ := .refl _
  hash4_perm _ := .refl _
  listed_perm := .refl _
  queued_perm := .refl _
  sessions_ne _ hp := (List.not_mem_nil _ hp).elim
  same_ends _ hp := (List.not_mem_nil _ hp).elim

/-- Every store a run reaches is consistent, whichever calls of `bib_session_create` and
    advances of `jiffies` it makes. -/
theorem Reach.storeOk {create : Store → In6Addr → UInt16 → Int → Option TransportAddr → Prop}
    {tick : Store → Nat → Prop} {st : Store} {drawn : List TransportAddr}
    (hr : Reach create tick st drawn) : StoreOk st := by
  induction hr with
  | init timeout hz longBits jiffies next _ => exact storeOk_init timeout hz longBits jiffies next
  | bibSessionCreate saddr in6Daddr daddr sport dport protocol type ta _ _ ih =>
    exact ih.bibSessionCreate saddr in6Daddr daddr sport dport protocol type ta
  | sessionCreate _ _ _ _ _ _ _ hb ih => exact ih.sessionCreate hb _ _ _ _ _
  | sessionRenew _ type _ hs ih => exact ih.sessionRenew hs type
  | tcp4Fsm _ tcph _ hs ih => exact ih.fsmEffect hs (tcp4Fsm_effect _ _ tcph)
  | tcp6Fsm _ tcph _ hs ih => exact ih.fsmEffect hs (tcp6Fsm_effect _ _ tcph)
  | tcpTimeoutFsm _ _ hs ih => exact ih.fsmEffect hs (tcpTimeoutFsm_effect _ _)
  | cleanExpiredSessions q _ ih => exact ih.cleanLoop q
  | tick d _ _ ih => exact ih.tick d

-- ---------------------------------------------------------------------------
-- Every run
-- ---------------------------------------------------------------------------

/-- The store a run reaches is consistent. The indices hold exactly the live BIBs, each once and
    at the bucket of its hash. Every live session is on exactly one BIB's list and on exactly one
    expiry queue, and these hold no other session. A session agrees with its BIB on the
    transport addresses they share. The reaper's removal of a session frees its BIB, and unlinks
    it from both indices, exactly when the session was the last on the BIB's list. -/
theorem bib_session_store_consistent
    {create : Store → In6Addr → UInt16 → Int → Option TransportAddr → Prop}
    {tick : Store → Nat → Prop} {st : Store} {drawn : List TransportAddr}
    (hr : Reach create tick st drawn) :
    (∀ b i, b ∈ st.hash6 i ↔
      ∃ e, (b, e) ∈ st.bibs ∧ (nat64Hash6 e.remote6Addr e.remote6Port).toNat = i) ∧
    (∀ b i, b ∈ st.hash4 i ↔ ∃ e, (b, e) ∈ st.bibs ∧ e.local4Port.toNat = i) ∧
    (∀ i, (st.hash6 i).Nodup ∧ (st.hash4 i).Nodup) ∧
    (∀ p ∈ st.bibs, p.2.sessions ≠ []) ∧
    st.sessionIds.Nodup ∧ st.listed ~ st.sessionIds ∧ st.queued ~ st.sessionIds ∧
    (∀ p ∈ st.bibs, ∀ s ∈ p.2.sessions, ∀ e, st.session? s = some e → SameEnds p.2 e) ∧
    (∀ b e s, (b, e) ∈ st.bibs → s ∈ e.sessions →
      (b ∈ (reapSession st s).bibIds ↔ e.sessions ≠ [s]) ∧
      (∀ i, b ∈ (reapSession st s).hash6 i ↔ b ∈ st.hash6 i ∧ e.sessions ≠ [s]) ∧
      (∀ i, b ∈ (reapSession st s).hash4 i ↔ b ∈ st.hash4 i ∧ e.sessions ≠ [s])) := by
  have h := hr.storeOk
  exact ⟨h.mem_hash6, h.mem_hash4, fun i => ⟨h.hash6_nodup i, h.hash4_nodup i⟩, h.sessions_ne,
    h.sessionIds_nodup, h.listed_perm, h.queued_perm,
    fun p hp s hs e he => h.same_ends p hp s hs e (Store.mem_of_session? he),
    fun _ _ _ hbe hse => h.reapSession_bib hbe hse⟩

theorem bib_session_store_consistent_sample :
    Reach anyCreate anyTick (sampleStore 9) sampleDrawn ∧
    (∀ b i, b ∈ (sampleStore 9).hash6 i ↔
      ∃ e, (b, e) ∈ (sampleStore 9).bibs ∧ (nat64Hash6 e.remote6Addr e.remote6Port).toNat = i) ∧
    (∀ b i, b ∈ (sampleStore 9).hash4 i ↔ ∃ e, (b, e) ∈ (sampleStore 9).bibs ∧ e.local4Port.toNat = i) ∧
    (∀ i, ((sampleStore 9).hash6 i).Nodup ∧ ((sampleStore 9).hash4 i).Nodup) ∧
    (∀ p ∈ (sampleStore 9).bibs, p.2.sessions ≠ []) ∧
    (sampleStore 9).sessionIds.Nodup ∧ (sampleStore 9).listed ~ (sampleStore 9).sessionIds ∧ (sampleStore 9).queued ~ (sampleStore 9).sessionIds ∧
    (∀ p ∈ (sampleStore 9).bibs, ∀ s ∈ p.2.sessions, ∀ e, (sampleStore 9).session? s = some e → SameEnds p.2 e) ∧
    (∀ b e s, (b, e) ∈ (sampleStore 9).bibs → s ∈ e.sessions →
      (b ∈ (reapSession (sampleStore 9) s).bibIds ↔ e.sessions ≠ [s]) ∧
      (∀ i, b ∈ (reapSession (sampleStore 9) s).hash6 i ↔ b ∈ (sampleStore 9).hash6 i ∧ e.sessions ≠ [s]) ∧
      (∀ i, b ∈ (reapSession (sampleStore 9) s).hash4 i ↔ b ∈ (sampleStore 9).hash4 i ∧ e.sessions ≠ [s])) :=
  have hr : Reach anyCreate anyTick (sampleStore 9) sampleDrawn := .sample trivial trivial trivial trivial trivial
  ⟨hr, bib_session_store_consistent hr⟩

end Jool.Filtering
