-- SUMMARY: What pool4_get_any and pool4_get_similar draw on any pool state: when they succeed, from which node and section, which port, and what else they leave alone.
import Jool.Pool4.Nodes

/-!
# Drawing a port

A section *can draw* when its `free_ports` FIFO is not empty or `next_port` has not passed
`max_port`; drawing takes the FIFO head, or else `next_port`, which then advances by two.
`extract_any_port` does exactly that (`extractAnyPort_eq_some_iff`). `pool4_get_any` tries
the nodes of the protocol's list in order, which is the order `pool4_register` appended them
in, and draws from the first whose section for the port can draw; `pool4_get_similar` tries
only the first node of the asked address. Either changes one section of one node, or nothing.
-/

namespace Jool.Pool4

namespace AddrSection

/-- The section can hand out a port: a port given back waits in `free_ports`, or `next_port`
    has not passed `max_port`. -/
def CanDraw (s : AddrSection) : Prop := s.freePorts ≠ [] ∨ s.nextPort ≤ s.maxPort

instance (s : AddrSection) : Decidable s.CanDraw := inferInstanceAs (Decidable (_ ∨ _))

/-- Handing out `q` leaves `s'`: `q` is the head of `free_ports`, which loses it, or, with
    `free_ports` empty, `q` is `next_port`, which advances by two. -/
def Draws (s : AddrSection) (q : Nat) (s' : AddrSection) : Prop :=
  (∃ rest, s.freePorts = q :: rest ∧ s' = { s with freePorts := rest }) ∨
  (s.freePorts = [] ∧ q = s.nextPort ∧ s' = { s with nextPort := s.nextPort + 2 })

end AddrSection

/-- `extract_any_port` succeeds exactly on a section that can draw, and draws from it. -/
theorem extractAnyPort_eq_some_iff {s s' : AddrSection} {q : Nat} :
    extractAnyPort s = some (q, s') ↔ s.CanDraw ∧ s.Draws q s' := by
  unfold extractAnyPort AddrSection.CanDraw AddrSection.Draws
  split
  · next p rest hfree =>
    simp only [hfree]
    constructor
    · rintro ⟨⟩
      exact ⟨.inl (List.cons_ne_nil _ _), .inl ⟨rest, rfl, rfl⟩⟩
    · rintro ⟨-, ⟨rest', ⟨⟩, rfl⟩ | ⟨⟨⟩, -⟩⟩
      rfl
  · next hfree =>
    simp only [hfree]
    split
    · next hgt =>
      simp only [reduceCtorEq, false_iff, not_and]
      rintro (h | h)
      · exact absurd rfl h
      · omega
    · next hle =>
      constructor
      · rintro ⟨⟩
        exact ⟨.inr (by omega), .inr (by simp)⟩
      · rintro ⟨-, ⟨_, ⟨⟩, -⟩ | ⟨-, rfl, rfl⟩⟩
        rfl

theorem extractAnyPort_eq_none_iff_not_canDraw (s : AddrSection) :
    extractAnyPort s = none ↔ ¬ s.CanDraw := by
  rw [← not_iff_not, ← ne_eq, Option.ne_none_iff_exists', not_not]
  constructor
  · rintro ⟨⟨q, s'⟩, h⟩
    exact (extractAnyPort_eq_some_iff.1 h).1
  · intro h
    unfold AddrSection.CanDraw at h
    unfold extractAnyPort
    split
    · exact ⟨_, rfl⟩
    · next hfree =>
      rw [if_neg (by simp_all)]
      exact ⟨_, rfl⟩

/-- The loop of `pool4_get_any` fails exactly when no node's section can draw. -/
theorem getAnyIn_eq_none_iff (l4Id : Nat) (ns : List PoolNode) :
    getAnyIn l4Id ns = none ↔ ∀ n ∈ ns, ¬ (n.sectionOf (getSection l4Id)).CanDraw := by
  induction ns with
  | nil => simp [getAnyIn]
  | cons n ns ih =>
    simp only [getAnyIn, List.mem_cons, forall_eq_or_imp]
    split
    · next p s hx =>
      simp only [reduceCtorEq, false_iff, not_and, not_not]
      exact fun h => absurd (extractAnyPort_eq_some_iff.1 hx).1 h
    · next hx =>
      rw [Option.map_eq_none', ih]
      exact ⟨fun h => ⟨(extractAnyPort_eq_none_iff_not_canDraw _).1 hx, h⟩, fun h => h.2⟩

/-- The nodes of the list a protocol number selects; none for a number `get_pool` rejects. -/
def poolOf (p : Pools) (l4protocol : Nat) : List PoolNode := ((getPool l4protocol).map p.get).getD []

/-- `pool4_get_any(proto, port)` succeeds exactly when some node of the protocol's list has,
    in the section of `be16_to_cpu(port)`, a port to draw; failing, it changes nothing;
    succeeding, it draws from the first such node and changes only that section. -/
theorem pool4GetAny_spec (p : Pools) (l4protocol port : Nat) :
    ((pool4GetAny p l4protocol port).1.isSome ↔
      ∃ n ∈ poolOf p l4protocol, (n.sectionOf (getSection (be16ToCpu port))).CanDraw) ∧
    ((pool4GetAny p l4protocol port).1 = none → (pool4GetAny p l4protocol port).2 = p) ∧
    ∀ r p', pool4GetAny p l4protocol port = (some r, p') →
      ∃ π pre n post q s', getPool l4protocol = some π ∧ p.get π = pre ++ n :: post ∧
        (∀ m ∈ pre, ¬ (m.sectionOf (getSection (be16ToCpu port))).CanDraw) ∧
        (n.sectionOf (getSection (be16ToCpu port))).CanDraw ∧
        (n.sectionOf (getSection (be16ToCpu port))).Draws q s' ∧
        r = ⟨n.address, q⟩ ∧ p' = p.set π (pre ++ n.setSection (getSection (be16ToCpu port)) s' :: post) := by
  refine ⟨?_, ?_, ?_⟩
  · unfold pool4GetAny poolOf
    cases getPool l4protocol with
    | none => simp
    | some π =>
      by_cases he : p.get π = []
      · simp [he]
      · cases hg : getAnyIn (be16ToCpu port) (p.get π) with
        | none =>
          simp only [he, hg, if_false, Option.isSome_none, Option.map_some', Option.getD_some,
            Bool.false_eq_true, false_iff, not_exists, not_and]
          exact (getAnyIn_eq_none_iff _ _).1 hg
        | some rs =>
          obtain ⟨pre, n, post, q, s, hsplit, -, hx, -, -⟩ := getAnyIn_eq_some hg
          simp only [he, hg, if_false, Option.isSome_some, Option.map_some', Option.getD_some,
            true_iff]
          exact ⟨n, hsplit ▸ List.mem_append_right _ (List.mem_cons_self _ _),
            (extractAnyPort_eq_some_iff.1 hx).1⟩
  · intro hnone
    rcases pool4GetAny_cases p l4protocol port with h | ⟨_, _, _, _, _, _, _, _, _, _, h⟩ <;>
      simp [h] at hnone ⊢
  · intro r p' hrp
    rcases pool4GetAny_cases p l4protocol port with h | ⟨π, pre, n, post, q, s, hπ, hsplit, hx, hpre, h⟩
    · rw [h] at hrp; cases hrp
    · rw [h] at hrp
      cases hrp
      obtain ⟨hc, hd⟩ := extractAnyPort_eq_some_iff.1 hx
      exact ⟨π, pre, n, post, q, s, hπ, hsplit,
        fun m hm => (extractAnyPort_eq_none_iff_not_canDraw _).1 (hpre m hm), hc, hd, rfl, rfl⟩

/-- `pool4_get_similar(proto, a)` succeeds exactly when the first node of `a.address` in the
    protocol's list has, in the section of `a.l4_id`, a port to draw; failing, it changes
    nothing; succeeding, it draws from that node and changes only that section. -/
theorem pool4GetSimilar_spec (p : Pools) (l4protocol : Nat) (a : Ipv4TupleAddress) :
    ((pool4GetSimilar p l4protocol (some a)).1.isSome ↔
      ∃ π pre n post, getPool l4protocol = some π ∧ p.get π = pre ++ n :: post ∧
        n.address = a.address ∧ a.address ∉ pre.map (·.address) ∧
        (n.sectionOf (getSection a.l4Id)).CanDraw) ∧
    ((pool4GetSimilar p l4protocol (some a)).1 = none →
      (pool4GetSimilar p l4protocol (some a)).2 = p) ∧
    ∀ r p', pool4GetSimilar p l4protocol (some a) = (some r, p') →
      ∃ π pre n post q s', getPool l4protocol = some π ∧ p.get π = pre ++ n :: post ∧
        n.address = a.address ∧ a.address ∉ pre.map (·.address) ∧
        (n.sectionOf (getSection a.l4Id)).CanDraw ∧ (n.sectionOf (getSection a.l4Id)).Draws q s' ∧
        r = ⟨a.address, q⟩ ∧ p' = p.set π (pre ++ n.setSection (getSection a.l4Id) s' :: post) := by
  refine ⟨⟨fun hs => ?_, fun ⟨π, pre, n, post, hπ, hsplit, hna, hpre, hc⟩ => ?_⟩, fun hnone => ?_,
    fun r p' hrp => ?_⟩
  · rcases pool4GetSimilar_cases p l4protocol (some a) with h | ⟨a', π, pre, n, post, q, s, ha, hπ,
      hsplit, hna, hpre, hx, -⟩
    · rw [h] at hs; cases hs
    · cases ha
      exact ⟨π, pre, n, post, hπ, hsplit, hna, hpre, (extractAnyPort_eq_some_iff.1 hx).1⟩
  · have hn : getPoolNode (p.get π) a.address = some n := by
      rw [hsplit, getPoolNode, List.find?_append, List.find?_eq_none.2 fun m hm hma =>
        hpre (List.mem_map.2 ⟨m, hm, by simpa using hma⟩)]
      simp [hna]
    obtain ⟨⟨q, s⟩, hx⟩ := Option.ne_none_iff_exists'.1
      (mt (extractAnyPort_eq_none_iff_not_canDraw _).1 (not_not.2 hc))
    simp [pool4GetSimilar, hπ, hn, hx]
  · rcases pool4GetSimilar_cases p l4protocol (some a) with h | ⟨_, _, _, _, _, _, _, _, _, _, _, _,
      _, h⟩ <;> simp [h] at hnone ⊢
  · rcases pool4GetSimilar_cases p l4protocol (some a) with h | ⟨a', π, pre, n, post, q, s, ha, hπ,
      hsplit, hna, hpre, hx, h⟩
    · rw [h] at hrp; cases hrp
    · cases ha
      rw [h] at hrp
      cases hrp
      obtain ⟨hc, hd⟩ := extractAnyPort_eq_some_iff.1 hx
      exact ⟨π, pre, n, post, q, s, hπ, hsplit, hna, hpre, hc, hd, rfl, rfl⟩

/-- On every pool state: `pool4_get_any(proto, port)` succeeds exactly when some node of the
    protocol's list can draw in the section of `be16_to_cpu(port)`, draws from the first such node
    in registration order and changes only that section; `pool4_get_similar(proto, a)` does the
    same for the first node of `a.address` and the section of `a.l4_id`; failing, either leaves
    the pools as they were. -/
theorem pool4_draws_first_fit (p : Pools) (l4protocol : Nat) :
    (∀ port,
      ((pool4GetAny p l4protocol port).1.isSome ↔
        ∃ n ∈ poolOf p l4protocol, (n.sectionOf (getSection (be16ToCpu port))).CanDraw) ∧
      ((pool4GetAny p l4protocol port).1 = none → (pool4GetAny p l4protocol port).2 = p) ∧
      ∀ r p', pool4GetAny p l4protocol port = (some r, p') →
        ∃ π pre n post q s', getPool l4protocol = some π ∧ p.get π = pre ++ n :: post ∧
          (∀ m ∈ pre, ¬ (m.sectionOf (getSection (be16ToCpu port))).CanDraw) ∧
          (n.sectionOf (getSection (be16ToCpu port))).CanDraw ∧
          (n.sectionOf (getSection (be16ToCpu port))).Draws q s' ∧
          r = ⟨n.address, q⟩ ∧
          p' = p.set π (pre ++ n.setSection (getSection (be16ToCpu port)) s' :: post)) ∧
    (∀ a : Ipv4TupleAddress,
      ((pool4GetSimilar p l4protocol (some a)).1.isSome ↔
        ∃ π pre n post, getPool l4protocol = some π ∧ p.get π = pre ++ n :: post ∧
          n.address = a.address ∧ a.address ∉ pre.map (·.address) ∧
          (n.sectionOf (getSection a.l4Id)).CanDraw) ∧
      ((pool4GetSimilar p l4protocol (some a)).1 = none →
        (pool4GetSimilar p l4protocol (some a)).2 = p) ∧
      ∀ r p', pool4GetSimilar p l4protocol (some a) = (some r, p') →
        ∃ π pre n post q s', getPool l4protocol = some π ∧ p.get π = pre ++ n :: post ∧
          n.address = a.address ∧ a.address ∉ pre.map (·.address) ∧
          (n.sectionOf (getSection a.l4Id)).CanDraw ∧
          (n.sectionOf (getSection a.l4Id)).Draws q s' ∧
          r = ⟨a.address, q⟩ ∧ p' = p.set π (pre ++ n.setSection (getSection a.l4Id) s' :: post)) :=
  ⟨pool4GetAny_spec p l4protocol, pool4GetSimilar_spec p l4protocol⟩

end Jool.Pool4
