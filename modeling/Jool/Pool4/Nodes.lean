-- SUMMARY: What the node scans of pool4.c find and change: get_pool_node, the write-back through its pointer, and the loop of pool4_get_any.
import Jool.Pool4.Defs

/-!
# Node scans

Each operation of `pool4.c` that changes a node first finds it by a scan of the list, then
writes through the pointer it found. The lemmas here say, once for every caller, where the
found node sits in the list and what the list is after the write: the list splits as
`pre ++ node :: post`, and only `node` changes.
-/

namespace Jool.Pool4

/-- The addresses of a pool, in list order. -/
def addresses (p : Pools) (π : L4Proto) : List InAddr := (p.get π).map (·.address)

theorem getPoolNode_eq_some {pool : List PoolNode} {a : InAddr} {node : PoolNode}
    (h : getPoolNode pool a = some node) :
    node.address = a ∧ ∃ pre post, pool = pre ++ node :: post ∧ a ∉ pre.map (·.address) := by
  obtain ⟨hp, pre, post, rfl, hpre⟩ := List.find?_eq_some.1 h
  refine ⟨by simpa using hp, pre, post, rfl, ?_⟩
  simp only [List.mem_map, not_exists, not_and]
  intro m hm hma
  simpa [hma] using hpre m hm

theorem getPoolNode_eq_none {pool : List PoolNode} {a : InAddr} :
    getPoolNode pool a = none ↔ a ∉ pool.map (·.address) := by
  simp [getPoolNode, List.find?_eq_none]

theorem getPoolNode_isSome {pool : List PoolNode} {a : InAddr} :
    (getPoolNode pool a).isSome ↔ a ∈ pool.map (·.address) := by
  rw [← not_iff_not, Option.not_isSome_iff_eq_none, getPoolNode_eq_none]

theorem setPoolNode_append {pre post : List PoolNode} {a : InAddr} (node n : PoolNode)
    (hpre : a ∉ pre.map (·.address)) (hnode : node.address = a) :
    setPoolNode (pre ++ node :: post) a n = pre ++ n :: post := by
  induction pre with
  | nil => simp [setPoolNode, hnode]
  | cons m ms ih =>
    simp only [List.map_cons, List.mem_cons, not_or] at hpre
    simp [setPoolNode, Ne.symm hpre.1, ih hpre.2]

/-- The write-back through `get_pool_node`'s pointer changes the found node only. -/
theorem setPoolNode_of_getPoolNode {pool : List PoolNode} {a : InAddr} {node : PoolNode}
    (h : getPoolNode pool a = some node) (n : PoolNode) :
    node.address = a ∧ ∃ pre post, pool = pre ++ node :: post ∧
      setPoolNode pool a n = pre ++ n :: post ∧ a ∉ pre.map (·.address) := by
  obtain ⟨hnode, pre, post, rfl, hpre⟩ := getPoolNode_eq_some h
  exact ⟨hnode, pre, post, rfl, setPoolNode_append node n hpre hnode, hpre⟩

/-- `pool4_get_any`'s loop draws from the first node whose section has a port, and changes
    that section only. -/
theorem getAnyIn_eq_some {l4Id : Nat} {ns ns' : List PoolNode} {r : Ipv4TupleAddress}
    (h : getAnyIn l4Id ns = some (r, ns')) :
    ∃ pre n post p s, ns = pre ++ n :: post ∧
      ns' = pre ++ n.setSection (getSection l4Id) s :: post ∧
      extractAnyPort (n.sectionOf (getSection l4Id)) = some (p, s) ∧ r = ⟨n.address, p⟩ ∧
      ∀ m ∈ pre, extractAnyPort (m.sectionOf (getSection l4Id)) = none := by
  induction ns generalizing ns' with
  | nil => cases h
  | cons n ns ih =>
    simp only [getAnyIn] at h
    split at h
    · next p s hx =>
      cases h
      exact ⟨[], n, ns, p, s, rfl, rfl, hx, rfl, by simp⟩
    · next hx =>
      obtain ⟨⟨r', ns''⟩, hrec, he⟩ := Option.map_eq_some'.1 h
      cases he
      obtain ⟨pre, m, post, p, s, rfl, rfl, hm, rfl, hpre⟩ := ih hrec
      refine ⟨n :: pre, m, post, p, s, rfl, rfl, hm, rfl, ?_⟩
      simp only [List.mem_cons, forall_eq_or_imp]
      exact ⟨hx, hpre⟩

theorem removeFrom_eq (a : InAddr) (acc : Nat × Pools) (π : L4Proto) :
    removeFrom a acc π = (acc.1 + if a ∈ addresses acc.2 π then 1 else 0,
      acc.2.set π ((acc.2.get π).eraseP (·.address == a))) := by
  unfold removeFrom
  split
  · next h =>
    have ha := getPoolNode_eq_none.1 h
    have hkeep : (acc.2.get π).eraseP (·.address == a) = acc.2.get π :=
      List.eraseP_of_forall_not fun n hn hna => ha (List.mem_map.2 ⟨n, hn, by simpa using hna⟩)
    simp [addresses, ha, hkeep]
  · next n h =>
    obtain ⟨hn, pre, post, hsplit, -⟩ := getPoolNode_eq_some h
    simp [addresses, hsplit, hn]

theorem removeNodes_get (p : Pools) (a : InAddr) (π : L4Proto) :
    (removeNodes p a).2.get π = (p.get π).eraseP (·.address == a) := by
  cases π <;> simp [removeNodes, removeFrom_eq]

theorem pool4Remove_snd (p : Pools) (a : InAddr) :
    (pool4Remove p (some a)).2 = (removeNodes p a).2 := by
  simp only [pool4Remove]
  split <;> rfl

/-- A list changed in one node at the same address keeps its addresses. -/
theorem map_address_middle {pre post : List PoolNode} {n n' : PoolNode}
    (h : n'.address = n.address) :
    (pre ++ n' :: post).map (·.address) = (pre ++ n :: post).map (·.address) := by
  simp [h]

end Jool.Pool4

-- ---------------------------------------------------------------------------
-- What each allocation operation can do
-- ---------------------------------------------------------------------------

namespace Jool.Pool4

/-- `pool4_get_any` either fails and changes nothing, or draws from the first node of the
    protocol's pool whose section for the port has one, and changes that section only. -/
theorem pool4GetAny_cases (p : Pools) (l4protocol port : Nat) :
    pool4GetAny p l4protocol port = (none, p) ∨
    ∃ π pre n post q s, getPool l4protocol = some π ∧ p.get π = pre ++ n :: post ∧
      extractAnyPort (n.sectionOf (getSection (be16ToCpu port))) = some (q, s) ∧
      (∀ m ∈ pre, extractAnyPort (m.sectionOf (getSection (be16ToCpu port))) = none) ∧
      pool4GetAny p l4protocol port = (some ⟨n.address, q⟩,
        p.set π (pre ++ n.setSection (getSection (be16ToCpu port)) s :: post)) := by
  unfold pool4GetAny
  cases hπ : getPool l4protocol with
  | none => exact .inl rfl
  | some π =>
    by_cases he : p.get π = []
    · exact .inl (by simp [he])
    · cases hg : getAnyIn (be16ToCpu port) (p.get π) with
      | none => exact .inl (by simp [he, hg])
      | some rs =>
        obtain ⟨r, ns'⟩ := rs
        obtain ⟨pre, n, post, q, s, hsplit, rfl, hx, rfl, hpre⟩ := getAnyIn_eq_some hg
        exact .inr ⟨π, pre, n, post, q, s, rfl, hsplit, hx, hpre, by simp [he, hg]⟩

/-- `pool4_get_similar` either fails and changes nothing, or draws from the first node of the
    asked address, in the section of the asked port, and changes that section only. -/
theorem pool4GetSimilar_cases (p : Pools) (l4protocol : Nat)
    (address : Option Ipv4TupleAddress) :
    pool4GetSimilar p l4protocol address = (none, p) ∨
    ∃ a π pre n post q s, address = some a ∧ getPool l4protocol = some π ∧
      p.get π = pre ++ n :: post ∧ n.address = a.address ∧ a.address ∉ pre.map (·.address) ∧
      extractAnyPort (n.sectionOf (getSection a.l4Id)) = some (q, s) ∧
      pool4GetSimilar p l4protocol address = (some ⟨a.address, q⟩,
        p.set π (pre ++ n.setSection (getSection a.l4Id) s :: post)) := by
  rcases address with _ | a
  · exact .inl rfl
  cases hπ : getPool l4protocol with
  | none => exact .inl (by simp [pool4GetSimilar, hπ])
  | some π =>
    cases hn : getPoolNode (p.get π) a.address with
    | none => exact .inl (by simp [pool4GetSimilar, hπ, hn])
    | some n =>
      cases hx : extractAnyPort (n.sectionOf (getSection a.l4Id)) with
      | none => exact .inl (by simp [pool4GetSimilar, hπ, hn, hx])
      | some qs =>
        obtain ⟨q, s⟩ := qs
        obtain ⟨hna, pre, post, hsplit, hset, hpre⟩ :=
          setPoolNode_of_getPoolNode hn (n.setSection (getSection a.l4Id) s)
        exact .inr ⟨a, π, pre, n, post, q, s, rfl, rfl, hsplit, hna, hpre, hx,
          by simp [pool4GetSimilar, hπ, hn, hx, hset]⟩

/-- `pool4_return` either fails and changes nothing, or appends the port to its section's
    `free_ports` in the first node of the address, and changes nothing else. -/
theorem pool4Return_cases (p : Pools) (l4protocol : Nat) (address : Option Ipv4TupleAddress)
    (allocOk : Bool) :
    pool4Return p l4protocol address allocOk = (false, p) ∨
    ∃ a π pre n post, address = some a ∧ getPool l4protocol = some π ∧ allocOk = true ∧
      p.get π = pre ++ n :: post ∧ n.address = a.address ∧ a.address ∉ pre.map (·.address) ∧
      pool4Return p l4protocol address allocOk = (true, p.set π (pre ++
        n.setSection (getSection a.l4Id) { n.sectionOf (getSection a.l4Id) with
          freePorts := (n.sectionOf (getSection a.l4Id)).freePorts ++ [a.l4Id] } :: post)) := by
  rcases address with _ | a
  · exact .inl rfl
  cases hπ : getPool l4protocol with
  | none => exact .inl (by simp [pool4Return, hπ])
  | some π =>
    cases hn : getPoolNode (p.get π) a.address with
    | none => exact .inl (by simp [pool4Return, hπ, hn])
    | some n =>
      cases allocOk with
      | false => exact .inl (by simp [pool4Return, hπ, hn])
      | true =>
        obtain ⟨hna, pre, post, hsplit, hset, hpre⟩ := setPoolNode_of_getPoolNode hn
          (n.setSection (getSection a.l4Id) { n.sectionOf (getSection a.l4Id) with
            freePorts := (n.sectionOf (getSection a.l4Id)).freePorts ++ [a.l4Id] })
        exact .inr ⟨a, π, pre, n, post, rfl, rfl, rfl, hsplit, hna, hpre,
          by simp [pool4Return, hπ, hn, hset]⟩

end Jool.Pool4
