-- SUMMARY: Runs of the pool4 API that track the pairs callers hold: which histories hand a held pair out again, and how every port of a section is accounted for.
import Jool.Pool4.Accounting

/-!
# Outstanding pairs

A pair is outstanding from the successful `pool4_get_any` or `pool4_get_similar` that hands
it out until it is passed to `pool4_return`. Two runs of the API are followed here with the
outstanding pairs of each protocol beside the pools:

* `IssueRun` mixes registrations, removals, allocations and returns. `pool4_remove` destroys
  a node with its sections, whatever is outstanding, and `pool4_register` always builds a
  fresh node, so an address registered again while a pair of it is outstanding, or while it
  is still in the pool, hands that pair out again. Registrations of addresses nobody holds
  (`Unheld`) never lead to it.
* `AllocRun` allocates from and returns to pools registered from distinct addresses. A
  `pool4_return` whose `kmalloc` fails drops the port: the code says so, and the port is
  never handed out again. With those ports counted as lost, every port of every section is
  available, outstanding or lost, each exactly once.
-/

open scoped List

namespace Jool.Pool4

/-- The pairs outstanding after an allocation for `l4protocol` answered `r`. -/
def issue (out : L4Proto → List Ipv4TupleAddress) (l4protocol : Nat)
    (r : Option Ipv4TupleAddress) : L4Proto → List Ipv4TupleAddress :=
  match getPool l4protocol, r with
  | some π, some x => Function.update out π (x :: out π)
  | _, _ => out

/-- The pools after `pool4_init` and a successful registration of each address of `addrs`. -/
def registerAll (addrs : List InAddr) : Pools :=
  addrs.foldl (fun p a => (pool4Register p (some a) true).2) (pool4Init false []).2

/-- No successful allocation of a protocol answers with a pair of it that is outstanding. -/
def NoReissue (p : Pools) (out : L4Proto → List Ipv4TupleAddress) : Prop :=
  (∀ l4protocol port r p' π, pool4GetAny p l4protocol port = (some r, p') →
    getPool l4protocol = some π → r ∉ out π) ∧
  (∀ l4protocol address r p' π, pool4GetSimilar p l4protocol address = (some r, p') →
    getPool l4protocol = some π → r ∉ out π)

/-- An address that is in no pool and of which no pair is outstanding. -/
def Unheld (p : Pools) (out : L4Proto → List Ipv4TupleAddress) (a : InAddr) : Prop :=
  ∀ π, a ∉ addresses p π ∧ ∀ x ∈ out π, x.address ≠ a

/-- Runs of the pool4 API from `pool4_init`, with the outstanding pairs of each protocol. Each
    registration satisfies `fresh`, and each return gives back an outstanding pair. A
    registration with a `NULL` address changes nothing and is left out. -/
inductive IssueRun (fresh : Pools → (L4Proto → List Ipv4TupleAddress) → InAddr → Prop) :
    Pools → (L4Proto → List Ipv4TupleAddress) → Prop where
  | init : IssueRun fresh (pool4Init false []).2 fun _ => []
  | register {p out} (a : InAddr) (allocOk : Bool) :
      IssueRun fresh p out → fresh p out a → IssueRun fresh (pool4Register p (some a) allocOk).2 out
  | remove {p out} (address : Option InAddr) :
      IssueRun fresh p out → IssueRun fresh (pool4Remove p address).2 out
  | getAny {p out} (l4protocol port : Nat) : IssueRun fresh p out →
      IssueRun fresh (pool4GetAny p l4protocol port).2
        (issue out l4protocol (pool4GetAny p l4protocol port).1)
  | getSimilar {p out} (l4protocol : Nat) (address : Option Ipv4TupleAddress) :
      IssueRun fresh p out → IssueRun fresh (pool4GetSimilar p l4protocol address).2
        (issue out l4protocol (pool4GetSimilar p l4protocol address).1)
  | ret {p out} (l4protocol : Nat) {π : L4Proto} (x : Ipv4TupleAddress) (allocOk : Bool) :
      IssueRun fresh p out → getPool l4protocol = some π → x ∈ out π →
      IssueRun fresh (pool4Return p l4protocol (some x) allocOk).2
        (Function.update out π ((out π).erase x))

/-- Runs of the allocation API on the pools registered from `addrs`, with the pairs
    outstanding (`out`) and the pairs given back to a `pool4_return` that failed (`lost`).
    Each return gives back an outstanding pair. -/
inductive AllocRun (addrs : List InAddr) :
    Pools → (L4Proto → List Ipv4TupleAddress) → (L4Proto → List Ipv4TupleAddress) → Prop where
  | start : AllocRun addrs (registerAll addrs) (fun _ => []) fun _ => []
  | getAny {p out lost} (l4protocol port : Nat) : AllocRun addrs p out lost →
      AllocRun addrs (pool4GetAny p l4protocol port).2
        (issue out l4protocol (pool4GetAny p l4protocol port).1) lost
  | getSimilar {p out lost} (l4protocol : Nat) (address : Option Ipv4TupleAddress) :
      AllocRun addrs p out lost → AllocRun addrs (pool4GetSimilar p l4protocol address).2
        (issue out l4protocol (pool4GetSimilar p l4protocol address).1) lost
  | ret {p out lost} (l4protocol : Nat) {π : L4Proto} (x : Ipv4TupleAddress) (allocOk : Bool) :
      AllocRun addrs p out lost → getPool l4protocol = some π → x ∈ out π →
      AllocRun addrs (pool4Return p l4protocol (some x) allocOk).2
        (Function.update out π ((out π).erase x))
        (if (pool4Return p l4protocol (some x) allocOk).1 then lost
          else Function.update lost π (x :: lost π))

-- ---------------------------------------------------------------------------
-- Each step keeps the accounting
-- ---------------------------------------------------------------------------

section Steps

variable {p : Pools} {out extra : L4Proto → List Ipv4TupleAddress}

theorem update_append (π : L4Proto) (xs : List Ipv4TupleAddress) :
    (fun π' => Function.update out π xs π' ++ extra π') =
      Function.update (fun π' => out π' ++ extra π') π (xs ++ extra π) := by
  funext π'
  by_cases h : π' = π
  · subst h; simp
  · simp [Function.update_noteq h]

theorem Accounted.getAny (h : Accounted p fun π => out π ++ extra π) (l4protocol port : Nat) :
    Accounted (pool4GetAny p l4protocol port).2
      fun π => issue out l4protocol (pool4GetAny p l4protocol port).1 π ++ extra π := by
  rcases pool4GetAny_cases p l4protocol port with
    hr | ⟨π, pre, n, post, q, s, hπ, hsplit, hx, -, hr⟩ <;> rw [hr]
  · simpa [issue] using h
  · simp only [issue, hπ, update_append]
    exact h.extract hsplit hx

theorem Accounted.getSimilar (h : Accounted p fun π => out π ++ extra π) (l4protocol : Nat)
    (address : Option Ipv4TupleAddress) :
    Accounted (pool4GetSimilar p l4protocol address).2
      fun π => issue out l4protocol (pool4GetSimilar p l4protocol address).1 π ++ extra π := by
  rcases pool4GetSimilar_cases p l4protocol address with
    hr | ⟨a, π, pre, n, post, q, s, -, hπ, hsplit, ha, -, hx, hr⟩ <;> rw [hr]
  · simpa [issue] using h
  · simp only [issue, hπ, update_append, ← ha]
    exact h.extract hsplit hx

/-- A return either files the port back in its section, or fails and leaves the pools as
    they were, the pair moving from the outstanding ones to `extra`. -/
theorem Accounted.ret (h : Accounted p fun π => out π ++ extra π) (l4protocol : Nat)
    {π : L4Proto} {x : Ipv4TupleAddress} (hπ : getPool l4protocol = some π) (hx : x ∈ out π)
    (allocOk : Bool) :
    ((pool4Return p l4protocol (some x) allocOk).1 = true ∧
      Accounted (pool4Return p l4protocol (some x) allocOk).2
        fun π' => Function.update out π ((out π).erase x) π' ++ extra π') ∨
    ((pool4Return p l4protocol (some x) allocOk).1 = false ∧
      (pool4Return p l4protocol (some x) allocOk).2 = p ∧
      Accounted p fun π' => Function.update out π ((out π).erase x) π' ++
        Function.update extra π (x :: extra π) π') := by
  rcases pool4Return_cases p l4protocol (some x) allocOk with
    hr | ⟨a, π', pre, n, post, ha, hπ', -, hsplit, hna, -, hr⟩ <;> rw [hr]
  · refine .inr ⟨rfl, rfl, h.perm fun π' => ?_⟩
    by_cases h' : π' = π
    · subst h'
      simp only [Function.update_same]
      exact (List.perm_middle.trans ((List.perm_cons_erase hx).symm.append_right _)).symm
    · simp [Function.update_noteq h']
  · cases ha
    rw [hπ] at hπ'
    cases hπ'
    refine .inl ⟨rfl, ?_⟩
    rw [update_append, ← List.erase_append_left _ hx]
    exact h.giveBack hsplit (List.mem_append_left _ hx) hna.symm

end Steps

theorem registerAll_get (addrs : List InAddr) (π : L4Proto) :
    (registerAll addrs).get π = addrs.map newPoolNode := by
  suffices ∀ p : Pools, (addrs.foldl (fun p a => (pool4Register p (some a) true).2) p).get π =
      p.get π ++ addrs.map newPoolNode by
    simpa [registerAll, pool4Init] using this Pools.empty
  induction addrs with
  | nil => simp
  | cons a addrs ih =>
    intro p
    rw [List.foldl_cons, ih]
    simp [pool4Register]

theorem accounted_registerAll {addrs : List InAddr} (hd : addrs.Nodup) :
    Accounted (registerAll addrs) fun _ => [] := fun π => by
  refine ⟨by simpa [addresses, registerAll_get, List.map_map, Function.comp_def] using hd,
    fun n hn k => ?_⟩
  obtain ⟨a, -, rfl⟩ := List.mem_map.1 (registerAll_get addrs π ▸ hn)
  simp [ledger, sectionOf_newPoolNode, available_init]

-- ---------------------------------------------------------------------------
-- Runs
-- ---------------------------------------------------------------------------

/-- In a run of allocations and returns on distinct registered addresses, the outstanding
    and the lost pairs together account for every port. -/
theorem AllocRun.accounted {addrs : List InAddr} (hd : addrs.Nodup) {p : Pools}
    {out lost : L4Proto → List Ipv4TupleAddress} (h : AllocRun addrs p out lost) :
    Accounted p fun π => out π ++ lost π := by
  induction h with
  | start => simpa using accounted_registerAll hd
  | getAny l4protocol port _ ih => exact ih.getAny l4protocol port
  | getSimilar l4protocol address _ ih => exact ih.getSimilar l4protocol address
  | ret l4protocol x allocOk _ hπ hx ih =>
    rcases ih.ret l4protocol hπ hx allocOk with ⟨ht, hacc⟩ | ⟨hf, hp, hacc⟩
    · simpa [ht] using hacc
    · simpa [hf, hp] using hacc

/-- Runs whose registrations are of addresses nobody holds keep every section accounted, once
    the pairs given back to a failed return are set aside. -/
theorem IssueRun.accounted {p : Pools} {out : L4Proto → List Ipv4TupleAddress}
    (h : IssueRun Unheld p out) :
    ∃ dropped : L4Proto → List Ipv4TupleAddress, Accounted p fun π => out π ++ dropped π := by
  induction h with
  | init => exact ⟨fun _ => [], fun π => by simp [pool4Init, addresses]⟩
  | @register p out a allocOk _ hfresh ih =>
    obtain ⟨dropped, hacc⟩ := ih
    cases allocOk
    · exact ⟨dropped, hacc⟩
    · refine ⟨fun π => (dropped π).filter (·.address ≠ a), hacc.register
        (fun π => (hfresh π).1) (fun π x hx => ?_) (fun π b k hb => ?_)⟩
      · rcases List.mem_append.1 hx with hx | hx
        · exact (hfresh π).2 x hx
        · simpa using (List.mem_filter.1 hx).2
      · simp only [portsOf_append, portsOf_filter_ne _ hb]
  | remove address _ ih =>
    obtain ⟨dropped, hacc⟩ := ih
    refine ⟨dropped, ?_⟩
    rcases address with _ | a
    · exact hacc
    · rw [pool4Remove_snd]
      exact hacc.sublist fun π => by rw [removeNodes_get]; exact List.eraseP_sublist _
  | getAny l4protocol port _ ih =>
    obtain ⟨dropped, hacc⟩ := ih
    exact ⟨dropped, hacc.getAny l4protocol port⟩
  | getSimilar l4protocol address _ ih =>
    obtain ⟨dropped, hacc⟩ := ih
    exact ⟨dropped, hacc.getSimilar l4protocol address⟩
  | @ret p out l4protocol π x allocOk _ hπ hx ih =>
    obtain ⟨dropped, hacc⟩ := ih
    rcases hacc.ret l4protocol hπ hx allocOk with ⟨-, hacc'⟩ | ⟨-, hp, hacc'⟩
    · exact ⟨dropped, hacc'⟩
    · exact ⟨_, hp ▸ hacc'⟩

/-- An accounted pool hands out no pair that is held. -/
theorem Accounted.noReissue {p : Pools} {out extra : L4Proto → List Ipv4TupleAddress}
    (h : Accounted p fun π => out π ++ extra π) : NoReissue p out := by
  refine ⟨fun l4protocol port r p' π hr hπ hmem => ?_, fun l4protocol address r p' π hr hπ hmem => ?_⟩
  · rcases pool4GetAny_cases p l4protocol port with
      h' | ⟨π', pre, n, post, q, s, hπ', hsplit, hx, -, h'⟩ <;> rw [h'] at hr
    · cases hr
    · cases hr
      rw [hπ] at hπ'
      cases hπ'
      exact h.not_mem_held (by simp [hsplit])
        (by rw [available_extractAnyPort hx]; exact List.mem_cons_self _ _)
        (List.mem_append_left _ hmem)
  · rcases pool4GetSimilar_cases p l4protocol address with
      h' | ⟨a, π', pre, n, post, q, s, -, hπ', hsplit, ha, -, hx, h'⟩ <;> rw [h'] at hr
    · cases hr
    · cases hr
      rw [hπ] at hπ'
      cases hπ'
      rw [← ha] at hmem
      exact h.not_mem_held (by simp [hsplit])
        (by rw [available_extractAnyPort hx]; exact List.mem_cons_self _ _)
        (List.mem_append_left _ hmem)

/-- When no address is registered while it is in the pool or while a pair of it is
    outstanding, no allocation ever hands out a pair that is outstanding. -/
theorem pool4_no_double_issue {p : Pools} {out : L4Proto → List Ipv4TupleAddress}
    (h : IssueRun Unheld p out) : NoReissue p out := by
  obtain ⟨_, hacc⟩ := h.accounted
  exact hacc.noReissue

/-- The calls of a sample run, one a step, on the pools and the pairs outstanding: 192.0.2.1
    registered, UDP port 1024 of it taken by `pool4_get_any` and a port like it by
    `pool4_get_similar`, 192.0.2.2 registered while those are out, and port 1024 given back. -/
def sampleIssueStep : Nat → Pools × (L4Proto → List Ipv4TupleAddress) →
    Pools × (L4Proto → List Ipv4TupleAddress)
  | 0, x => ((pool4Register x.1 (some ⟨0xC0000201⟩) true).2, x.2)
  | 1, x => ((pool4GetAny x.1 17 4).2, issue x.2 17 (pool4GetAny x.1 17 4).1)
  | 2, x => ((pool4GetSimilar x.1 17 (some ⟨⟨0xC0000201⟩, 1024⟩)).2,
      issue x.2 17 (pool4GetSimilar x.1 17 (some ⟨⟨0xC0000201⟩, 1024⟩)).1)
  | 3, x => ((pool4Register x.1 (some ⟨0xC0000202⟩) true).2, x.2)
  | _, x => ((pool4Return x.1 17 (some ⟨⟨0xC0000201⟩, 1024⟩) true).2,
      Function.update x.2 .udp ((x.2 .udp).erase ⟨⟨0xC0000201⟩, 1024⟩))

/-- The pools and outstanding pairs after the first `n` calls of the sample run. -/
def sampleIssueRun : Nat → Pools × (L4Proto → List Ipv4TupleAddress)
  | 0 => ((pool4Init false []).2, fun _ => [])
  | n + 1 => sampleIssueStep n (sampleIssueRun n)

/-- The sample run registers only addresses nobody holds; at its end UDP port 1026 of 192.0.2.1
    is outstanding, and no allocation hands out a pair that is. -/
theorem pool4_no_double_issue_sample :
    IssueRun Unheld (sampleIssueRun 5).1 (sampleIssueRun 5).2 ∧
      (sampleIssueRun 5).2 .udp = [⟨⟨0xC0000201⟩, 1026⟩] ∧
      NoReissue (sampleIssueRun 5).1 (sampleIssueRun 5).2 :=
  have r1 : IssueRun Unheld (sampleIssueRun 1).1 (sampleIssueRun 1).2 :=
    IssueRun.register ⟨0xC0000201⟩ true .init fun π => ⟨by cases π <;> decide, by cases π <;> decide⟩
  have r3 : IssueRun Unheld (sampleIssueRun 3).1 (sampleIssueRun 3).2 :=
    (r1.getAny 17 4).getSimilar 17 (some ⟨⟨0xC0000201⟩, 1024⟩)
  have r4 : IssueRun Unheld (sampleIssueRun 4).1 (sampleIssueRun 4).2 :=
    r3.register ⟨0xC0000202⟩ true fun π => ⟨by cases π <;> decide, by cases π <;> decide⟩
  have r5 : IssueRun Unheld (sampleIssueRun 5).1 (sampleIssueRun 5).2 :=
    r4.ret 17 ⟨⟨0xC0000201⟩, 1024⟩ true rfl (by decide)
  ⟨r5, by decide, pool4_no_double_issue r5⟩

/-- Registering an address, taking port 1024 of it, removing it and registering it again
    hands port 1024 out a second time while the first is outstanding. -/
theorem pool4_reregister_reissues :
    ¬ ∀ p out, IssueRun (fun _ _ _ => True) p out → NoReissue p out := by
  intro H
  have h0 : IssueRun (fun _ _ _ => True) _ _ := .init
  have hrun := IssueRun.register ⟨0xC6336401⟩ true (IssueRun.remove (some ⟨0xC6336401⟩)
    (IssueRun.getAny 17 4 (IssueRun.register ⟨0xC6336401⟩ true h0 trivial))) trivial
  exact (H _ _ hrun).1 17 4 ⟨⟨0xC6336401⟩, 1024⟩ _ .udp (Prod.ext (by decide) rfl) rfl
    (by decide)

/-- Every port of a section of a pool registered from distinct addresses is, exactly once,
    in its `free_ports`, never issued, outstanding, or lost to a `pool4_return` whose
    `kmalloc` failed. So `free_ports` repeats no port, and a section fails exactly when its
    outstanding and lost ports fill its class. -/
theorem pool4_sections_partition {addrs : List InAddr} (hd : addrs.Nodup) {p : Pools}
    {out lost : L4Proto → List Ipv4TupleAddress} (h : AllocRun addrs p out lost) :
    ∀ π, ∀ n ∈ p.get π, ∀ k,
      (n.sectionOf k).freePorts ++ neverIssued (n.sectionOf k) ++ portsOf (out π) n.address k ++
          portsOf (lost π) n.address k ~ k.ports ∧
        (n.sectionOf k).freePorts.Nodup ∧
        (extractAnyPort (n.sectionOf k) = none ↔
          (portsOf (out π) n.address k).length + (portsOf (lost π) n.address k).length =
            k.size) := by
  intro π n hn k
  have hperm : (n.sectionOf k).freePorts ++ neverIssued (n.sectionOf k) ++
      portsOf (out π) n.address k ++ portsOf (lost π) n.address k ~ k.ports := by
    simpa [ledger, available, portsOf_append] using (h.accounted hd π).2 n hn k
  have hlen := hperm.length_eq
  simp only [List.length_append, SectionKind.length_ports] at hlen
  refine ⟨hperm, (hperm.nodup_iff.2 k.nodup_ports).sublist (by simp), ?_⟩
  rw [extractAnyPort_eq_none_iff, available, ← List.length_eq_zero, List.length_append]
  omega

/-- After one allocation from a registered address, its sections are accounted. -/
theorem pool4_sections_partition_allocated :
    [(⟨0xC6336401⟩ : InAddr)].Nodup ∧
      AllocRun [⟨0xC6336401⟩] (pool4GetAny (registerAll [⟨0xC6336401⟩]) 17 4).2
        (issue (fun _ => []) 17 (pool4GetAny (registerAll [⟨0xC6336401⟩]) 17 4).1) (fun _ => []) ∧
      ∀ π, ∀ n ∈ (pool4GetAny (registerAll [⟨0xC6336401⟩]) 17 4).2.get π, ∀ k,
        (n.sectionOf k).freePorts.Nodup :=
  have hd : [(⟨0xC6336401⟩ : InAddr)].Nodup := by decide
  have h := AllocRun.getAny 17 4 (AllocRun.start : AllocRun [⟨0xC6336401⟩] _ _ _)
  ⟨hd, h, fun π n hn k => (pool4_sections_partition hd h π n hn k).2.1⟩

/-- Port 1024 handed out and given back to a `pool4_return` whose `kmalloc` fails is in
    neither `free_ports` nor the never-issued ports, and no longer outstanding. -/
theorem pool4_failed_return_loses_port :
    ¬ ∀ (addrs : List InAddr) (p : Pools) (out lost : L4Proto → List Ipv4TupleAddress),
      addrs.Nodup → AllocRun addrs p out lost → ∀ π, ∀ n ∈ p.get π, ∀ k,
        (n.sectionOf k).freePorts ++ neverIssued (n.sectionOf k) ++
          portsOf (out π) n.address k ~ k.ports := by
  intro H
  let x : Ipv4TupleAddress := ⟨⟨0xC6336401⟩, 1024⟩
  let n : PoolNode := (newPoolNode ⟨0xC6336401⟩).setSection .evenHigh ⟨1026, 65534, []⟩
  -- port 1024 is handed out, then given back to a return whose `kmalloc` fails
  have hrun : AllocRun [⟨0xC6336401⟩] ⟨[n], [newPoolNode ⟨0xC6336401⟩], [newPoolNode ⟨0xC6336401⟩]⟩
      (Function.update (Function.update (fun _ => []) .udp [x]) .udp [])
      (Function.update (fun _ => []) .udp [x]) :=
    AllocRun.ret 17 x false (AllocRun.getAny 17 4 .start) rfl (by decide)
  have hlen := (H _ _ _ _ (by decide) hrun .udp n (List.mem_singleton_self n) .evenHigh).length_eq
  simp [n, neverIssued, portsOf, SectionKind.length_ports, SectionKind.size] at hlen

end Jool.Pool4
