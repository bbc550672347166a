-- SUMMARY: What a pass of the reaper keeps: every session whose deadline has not passed, with its entry, and the BIB whose list holds it, with the session still on that list.
import Jool.Filtering.Keys
import Jool.Filtering.Tcp

/-!
# What the reaper keeps

`clean_expired_sessions` frees a session only when `time_after(jiffies, session->expires)`
holds for it, and a BIB only with the last session on its list. On a consistent store a pass is
therefore safe for every connection still in use (`reaper_keeps_live_sessions`): a session
whose deadline has not passed when the pass starts is there after it with the same entry, and
the BIB whose list holds it is still there, the session still on its list, and all its other
fields unchanged. The loop is followed with `cleanLoop_induction`: each turn is on an expired
session, so never on the live one, and the removal of another session takes that session off
its own BIB's list only.
-/

namespace Jool.Filtering

variable {st : Store}

/-- The removal of a live session `pos` keeps every BIB that lists another session, with `pos`
    taken off its list (a BIB that does not list `pos` is kept as it is). -/
theorem StoreOk.mem_bibs_reapSession (h : StoreOk st) {pos b s : Nat} {eb : BibEntry}
    (hpos : pos ∈ st.sessionIds) (hbe : (b, eb) ∈ st.bibs) (hs : s ∈ eb.sessions)
    (hne : s ≠ pos) :
    (b, { eb with sessions := eb.sessions.erase pos }) ∈ (Filtering.reapSession st pos).bibs := by
  obtain ⟨⟨b0, e0⟩, hbe0, hse0⟩ := List.mem_flatMap.1 (h.listed_perm.symm.subset hpos)
  rw [reapSession_of_find? (h.find?_owner hbe0 hse0)]
  -- the write to the owner's list
  have hupd : (b, { eb with sessions := eb.sessions.erase pos }) ∈
      ((st.delExpiry pos).updBib b0 fun e' => { e' with sessions := e'.sessions.erase pos }).bibs := by
    by_cases hb : b = b0
    · subst hb
      obtain rfl := h.bib_unique hbe hbe0
      exact List.mem_map.2 ⟨(b, eb), hbe, by simp⟩
    · have hpos' : pos ∉ eb.sessions := fun hp =>
        hb (congrArg Prod.fst (h.owner_unique hbe hbe0 hp hse0))
      rw [List.erase_of_not_mem hpos']
      exact List.mem_map.2 ⟨(b, eb), hbe, by simp [hb]⟩
  split
  · next hone =>
    -- the owner listed `pos` alone, so it is not `b`, whose list holds `s`
    have hb : b ≠ b0 := by
      rintro rfl
      obtain rfl := h.bib_unique hbe hbe0
      exact hne (List.mem_singleton.1 (hone ▸ hs))
    simpa [hb] using hupd
  · simpa using hupd

/-- A pass of the reaper over any queue of a consistent store keeps every session whose deadline
    has not passed when the pass starts, with the same entry, and the BIB whose list holds it:
    that BIB is still there, with the session on its list and every other field unchanged. -/
theorem reaper_keeps_live_sessions (h : StoreOk st) (q : ExpiryType) :
    ∀ s e, st.session? s = some e → timeAfter st.longBits st.jiffies e.expires = false →
      (cleanExpiredSessions st q).session? s = some e ∧
      ∀ b eb, (b, eb) ∈ st.bibs → s ∈ eb.sessions →
        ∃ eb', (cleanExpiredSessions st q).bib? b = some eb' ∧ s ∈ eb'.sessions ∧
          { eb' with sessions := eb.sessions } = eb := by
  intro s e he hlive
  have hinv := cleanLoop_induction (q := q) (fun x => StoreOk x ∧ SameClock st x ∧
      x.session? s = some e ∧ ∀ b eb, (b, eb) ∈ st.bibs → s ∈ eb.sessions →
        ∃ eb', (b, eb') ∈ x.bibs ∧ s ∈ eb'.sessions ∧ { eb' with sessions := eb.sessions } = eb)
    (fun x pos _ ep ⟨hx, hclk, hs, hbibs⟩ _ hep hexp => by
      have hpos := List.mem_map_of_mem Prod.fst (Store.mem_of_session? hep)
      -- the turn is on an expired session, so not on `s`
      have hne : s ≠ pos := by
        rintro rfl
        rw [hs, Option.some.injEq] at hep
        subst hep
        rw [hclk.jiffies_eq, hclk.longBits_eq, hlive] at hexp
        cases hexp
      refine ⟨hx.expireStep hpos, hclk.trans (sameClock_expireStep x pos),
        (session?_expireStep_of_ne hne).trans hs, fun b eb hbe hse => ?_⟩
      obtain ⟨eb', hbe', hse', hrest⟩ := hbibs b eb hbe hse
      rcases expireStep_eq_or x pos with hst | hst <;> rw [hst]
      · exact ⟨eb', hbe', hse', hrest⟩
      · exact ⟨{ eb' with sessions := eb'.sessions.erase pos },
          hx.mem_bibs_reapSession hpos hbe' hse' hne, (List.mem_erase_of_ne hne).2 hse', hrest⟩)
    st ⟨h, .refl st, he, fun b eb hbe hse => ⟨eb, hbe, hse, rfl⟩⟩
  obtain ⟨hok, -, hs, hbibs⟩ := hinv
  refine ⟨hs, fun b eb hbe hse => ?_⟩
  obtain ⟨eb', hbe', hse', hrest⟩ := hbibs b eb hbe hse
  exact ⟨eb', hok.bib?_of_mem hbe', hse', hrest⟩

theorem reaper_keeps_live_sessions_sample :
    StoreOk (sampleStore 8) ∧
    ∀ s e, (sampleStore 8).session? s = some e → timeAfter (sampleStore 8).longBits (sampleStore 8).jiffies e.expires = false →
      (cleanExpiredSessions (sampleStore 8) .udpDefault).session? s = some e ∧
      ∀ b eb, (b, eb) ∈ (sampleStore 8).bibs → s ∈ eb.sessions →
        ∃ eb', (cleanExpiredSessions (sampleStore 8) .udpDefault).bib? b = some eb' ∧
          s ∈ eb'.sessions ∧ { eb' with sessions := eb.sessions } = eb :=
  have hr : Reach anyCreate anyTick (sampleStore 8) sampleDrawn :=
    .sample_before_pass trivial trivial trivial trivial trivial
  ⟨hr.storeOk, reaper_keeps_live_sessions hr.storeOk .udpDefault⟩

end Jool.Filtering
