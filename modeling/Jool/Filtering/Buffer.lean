-- SUMMARY: The request buffer of print_bufu: strtokr and the two loops over it, the variables the loops fill in, the creation they end with, and what a well-formed request makes.
import Mathlib.Data.List.Basic
import Jool.Filtering.Run
import Jool.Filtering.Extract

/-!
# The request buffer

`print_bufu(b)` reads a request such as `udp&<IPv6 source>#<port>&<IPv6 destination>#<port>`: it
splits the buffer at `&` with `strtokr`, each token at `#`, and ends with a
`bib_session_create(_tcp)` for the protocol it read. A C string is its list of characters up to
the terminating NUL; `saveptr`, a pointer into it, is the suffix it points to.

`strtokr` is documented to return the tokens outside the delimiters, a run of delimiters counting
as one and no token empty. This module proves that a loop over it runs its body on exactly the
nonempty fields of `splitOnP` (`strtokr_loop_fields`), and from that what `print_bufu` does with a
well-formed request (`print_bufu_request`), and that a buffer with no `tcp` or `udp` field
creates nothing (`print_bufu_without_protocol`). `in6_pton`, `kstrtoul` and the value of the
uninitialised `res` come from outside the header and are parameters.
-/

namespace Jool.Filtering

-- ---------------------------------------------------------------------------
-- The string functions
-- ---------------------------------------------------------------------------

/-- `strspn(s, accept)`: the length of the longest prefix of `s` made of characters of `accept`. -/
def strspn (s accept : List Char) : Nat := (s.takeWhile (· ∈ accept)).length

/-- `strsep(&p, delim)`: the token up to the first character of `delim`, and where `p` points after
    the call: past that character, which now ends the token, or `NULL` when there is none. -/
def strsep (p delim : List Char) : List Char × Option (List Char) :=
  match p.dropWhile (· ∉ delim) with
  | [] => (p, none)
  | _ :: rest => (p.takeWhile (· ∉ delim), some rest)

/-- `strtokr(s, ct, &saveptr)`: the next token of `s`, or of `saveptr` when `s` is `NULL`, and the
    new `saveptr`; when `strsep` finds no delimiter, `saveptr` is set to the end of the token,
    the empty string. -/
def strtokr (s : Option (List Char)) (ct saveptr : List Char) : Option (List Char) × List Char :=
  let s := s.getD saveptr
  let saveptr := s.drop (strspn s ct)
  match saveptr with
  | [] => (none, saveptr)
  | _ :: _ =>
    match strsep saveptr ct with
    | (ret, some saveptr) => (some ret, saveptr)
    | (ret, none) => (some ret, [])

/-- The nonempty fields of `s` between delimiters of `ct`, in order: the tokens `strtokr` is
    documented to return. -/
def fields (ct s : List Char) : List (List Char) := (s.splitOnP (· ∈ ct)).filter (· ≠ [])

section Fields

variable {ct : List Char}

@[simp] theorem fields_nil : fields ct [] = [] := rfl

theorem fields_cons_of_mem {c : Char} (hc : c ∈ ct) (s : List Char) :
    fields ct (c :: s) = fields ct s := by
  simp [fields, List.splitOnP_cons, hc]

/-- Leading delimiters make no field. -/
theorem fields_dropWhile (s : List Char) : fields ct (s.dropWhile (· ∈ ct)) = fields ct s := by
  induction s with
  | nil => rfl
  | cons c s ih =>
    by_cases hc : c ∈ ct
    · rw [List.dropWhile_cons_of_pos (by simpa using hc), ih, fields_cons_of_mem hc]
    · rw [List.dropWhile_cons_of_neg (by simpa using hc)]

/-- A field followed by a delimiter. -/
theorem fields_first {t : List Char} (ht : t ≠ []) (hnd : ∀ x ∈ t, x ∉ ct) {d : Char} (hd : d ∈ ct)
    (r : List Char) : fields ct (t ++ d :: r) = t :: fields ct r := by
  rw [fields, List.splitOnP_first _ _ (by simpa using hnd) d (by simpa using hd),
    List.filter_cons_of_pos (by simpa using ht)]
  rfl

/-- A last field. -/
theorem fields_single {t : List Char} (ht : t ≠ []) (hnd : ∀ x ∈ t, x ∉ ct) : fields ct t = [t] := by
  rw [fields, List.splitOnP_eq_single _ _ (by simpa using hnd)]
  simp [ht]

/-- No piece of a split holds a separator. -/
theorem not_of_mem_splitOnP {α : Type} {p : α → Bool} {s t : List α} (ht : t ∈ s.splitOnP p) :
    ∀ x ∈ t, p x = false := by
  induction s generalizing t with
  | nil =>
    rw [List.splitOnP_nil, List.mem_singleton] at ht
    subst ht
    exact fun _ hx => (List.not_mem_nil _ hx).elim
  | cons c s ih =>
    rw [List.splitOnP_cons] at ht
    obtain ⟨h, tl, hs⟩ := List.exists_cons_of_ne_nil (List.splitOnP_ne_nil p s)
    split at ht
    · rcases List.mem_cons.1 ht with rfl | ht
      · exact fun _ hx => (List.not_mem_nil _ hx).elim
      · exact ih ht
    · next hc =>
      rw [hs, List.modifyHead_cons] at ht
      rcases List.mem_cons.1 ht with rfl | ht
      · -- the first piece gains the non-separator in front
        intro x hx
        rcases List.mem_cons.1 hx with rfl | hx
        · simpa using hc
        · exact ih (hs ▸ List.mem_cons_self h tl) x hx
      · exact ih (hs ▸ List.mem_cons_of_mem h ht)

/-- The pieces of a split, joined, are the list without its separators. -/
theorem flatten_splitOnP {α : Type} (p : α → Bool) (s : List α) :
    (s.splitOnP p).flatten = s.filter fun x => !p x := by
  induction s with
  | nil => rfl
  | cons c s ih =>
    obtain ⟨h, tl, hs⟩ := List.exists_cons_of_ne_nil (List.splitOnP_ne_nil p s)
    by_cases hc : p c
    · rw [List.splitOnP_cons, if_pos hc, List.flatten_cons, List.nil_append, ih,
        List.filter_cons_of_neg (by simpa using hc)]
    · rw [hs, List.flatten_cons] at ih
      rw [List.splitOnP_cons, if_neg hc, hs, List.modifyHead_cons, List.flatten_cons,
        List.cons_append, ih, List.filter_cons_of_pos (by simpa using hc)]

/-- Every field is a nonempty run of characters that are not delimiters. -/
theorem mem_fields {s t : List Char} (ht : t ∈ fields ct s) : t ≠ [] ∧ ∀ x ∈ t, x ∉ ct := by
  obtain ⟨hmem, hne⟩ := List.mem_filter.1 ht
  exact ⟨by simpa using hne, fun x hx => by simpa using not_of_mem_splitOnP hmem x hx⟩

/-- The fields, joined, are the string without its delimiters. -/
theorem flatten_fields (s : List Char) : (fields ct s).flatten = s.filter fun x => x ∉ ct := by
  rw [fields, List.flatten_filter_ne_nil, flatten_splitOnP]
  simp

end Fields

-- ---------------------------------------------------------------------------
-- What one call of strtokr returns
-- ---------------------------------------------------------------------------

section Strtokr

variable {ct : List Char}

/-- `strsep` on a string that starts with a non-delimiter: a nonempty token without delimiters,
    then either the end of the string or a delimiter and the rest. -/
theorem strsep_spec {c : Char} {r : List Char} (hc : c ∉ ct) :
    (strsep (c :: r) ct).1 ≠ [] ∧ (∀ x ∈ (strsep (c :: r) ct).1, x ∉ ct) ∧
    ((strsep (c :: r) ct).2 = none ∧ (strsep (c :: r) ct).1 = c :: r ∨
      ∃ d ∈ ct, ∃ rest, (strsep (c :: r) ct).2 = some rest ∧
        c :: r = (strsep (c :: r) ct).1 ++ d :: rest) := by
  have hsplit := List.takeWhile_append_dropWhile (fun x => decide (x ∉ ct)) (c :: r)
  have hhead := List.head?_dropWhile_not (fun x => decide (x ∉ ct)) (c :: r)
  unfold strsep
  split
  · next hdrop =>
    exact ⟨List.cons_ne_nil c r, fun x hx => of_decide_eq_true (List.dropWhile_eq_nil_iff.1 hdrop x hx),
      .inl ⟨rfl, rfl⟩⟩
  · next d rest hdrop =>
    rw [hdrop] at hsplit hhead
    refine ⟨by simp [List.takeWhile_cons, hc], fun x hx => by simpa using List.mem_takeWhile_imp hx,
      .inr ⟨d, by simpa using hhead, rest, rfl, hsplit.symm⟩⟩

theorem drop_strspn (s : List Char) : s.drop (strspn s ct) = s.dropWhile (· ∈ ct) := by
  induction s with
  | nil => rfl
  | cons c s ih =>
    by_cases hc : c ∈ ct
    · simp [strspn, List.takeWhile_cons, List.dropWhile_cons, hc, ← ih]
    · simp [strspn, List.takeWhile_cons, List.dropWhile_cons, hc]

/-- A call of `strtokr` that finds nothing: the string has no field. -/
theorem fields_of_strtokr_none {str : Option (List Char)} {saveptr rest : List Char}
    (h : strtokr str ct saveptr = (none, rest)) : fields ct (str.getD saveptr) = [] := by
  dsimp only [strtokr] at h
  rw [drop_strspn] at h
  rw [← fields_dropWhile]
  split at h
  · next hnil => rw [hnil]; rfl
  · split at h <;> cases h

/-- A call of `strtokr` that returns a token: the string's first field, and a `saveptr` shorter
    than the string whose fields are the others. -/
theorem fields_of_strtokr_some {str : Option (List Char)} {saveptr tok rest : List Char}
    (h : strtokr str ct saveptr = (some tok, rest)) :
    fields ct (str.getD saveptr) = tok :: fields ct rest ∧ rest.length < (str.getD saveptr).length := by
  dsimp only [strtokr] at h
  rw [drop_strspn] at h
  rw [← fields_dropWhile]
  have hle := (List.dropWhile_suffix (fun x => decide (x ∈ ct)) (l := str.getD saveptr)).length_le
  have hhead := List.head?_dropWhile_not (fun x => decide (x ∈ ct)) (str.getD saveptr)
  split at h
  · cases h
  · next c r hcr =>
    rw [hcr] at hle hhead h ⊢
    have hc : c ∉ ct := by simpa using hhead
    obtain ⟨hne, hnd, hcases⟩ := strsep_spec (r := r) hc
    rcases hs : strsep (c :: r) ct with ⟨tok', after⟩
    rw [hs] at h hne hnd hcases
    rcases hcases with ⟨rfl, htok⟩ | ⟨d, hd, rest', hsome, heq⟩
    · cases h
      rw [show tok = c :: r from htok, fields_single (List.cons_ne_nil c r) (htok ▸ hnd)]
      exact ⟨rfl, by simp at hle ⊢; omega⟩
    · cases hsome
      cases h
      refine ⟨heq ▸ fields_first hne hnd hd _, ?_⟩
      have := congrArg List.length heq
      simp only [List.length_append, List.length_cons] at this hle
      omega

end Strtokr

-- ---------------------------------------------------------------------------
-- The loops
-- ---------------------------------------------------------------------------

/-- `for (str = s; ; str = NULL) { tok = strtokr(str, ct, &saveptr); if (tok == NULL) break;
    body }`, the loop `print_bufu` runs twice; the body is told whether `str` was non-`NULL`. -/
def strtokrLoop {σ : Type} (ct : List Char) (body : σ → Bool → List Char → σ)
    (str : Option (List Char)) (saveptr : List Char) (v : σ) : σ :=
  match h : strtokr str ct saveptr with
  | (none, _) => v
  | (some tok, saveptr') => strtokrLoop ct body none saveptr' (body v str.isSome tok)
termination_by (str.getD saveptr).length
decreasing_by exact (fields_of_strtokr_some h).2

/-- A loop body run over tokens, the first one told so. -/
def foldTokens {σ : Type} (body : σ → Bool → List Char → σ) (v : σ) : List (List Char) → σ
  | [] => v
  | t :: ts => ts.foldl (fun v t => body v false t) (body v true t)

theorem strtokrLoop_none {σ : Type} (ct : List Char) (body : σ → Bool → List Char → σ)
    (saveptr : List Char) (v : σ) :
    strtokrLoop ct body none saveptr v = (fields ct saveptr).foldl (fun v t => body v false t) v := by
  induction saveptr using WellFounded.induction (measure List.length).wf generalizing v with
  | h saveptr ih =>
    rw [strtokrLoop]
    split
    · next h => rw [show fields ct saveptr = [] from fields_of_strtokr_none h]; rfl
    · next tok rest h =>
      obtain ⟨hf, hlt⟩ := fields_of_strtokr_some h
      rw [ih rest hlt, show fields ct saveptr = tok :: fields ct rest from hf]
      rfl

/-- A property the body keeps on each token holds after a fold over the tokens. -/
theorem foldTokens_induction {σ : Type} {body : σ → Bool → List Char → σ} (P : σ → Prop)
    {ts : List (List Char)} (hb : ∀ w first t, t ∈ ts → P w → P (body w first t)) {v : σ}
    (hv : P v) : P (foldTokens body v ts) := by
  have hfold : ∀ rest : List (List Char), (∀ t ∈ rest, t ∈ ts) → ∀ w, P w →
      P (rest.foldl (fun v t => body v false t) w) := by
    intro rest
    induction rest with
    | nil => exact fun _ _ hw => hw
    | cons t rest ih =>
      intro hsub w hw
      exact ih (fun t' ht' => hsub t' (List.mem_cons_of_mem t ht')) _
        (hb w false t (hsub t (List.mem_cons_self t rest)) hw)
  cases ts with
  | nil => exact hv
  | cons t rest =>
    exact hfold rest (fun t' ht' => List.mem_cons_of_mem t ht') _
      (hb v true t (List.mem_cons_self t rest) hv)

/-- The loop started on a string folds its body over the string's fields. -/
theorem strtokrLoop_some {σ : Type} (ct : List Char) (body : σ → Bool → List Char → σ)
    (s saveptr : List Char) (v : σ) :
    strtokrLoop ct body (some s) saveptr v = foldTokens body v (fields ct s) := by
  rw [strtokrLoop]
  split
  · next h => rw [show fields ct s = [] from fields_of_strtokr_none h]; rfl
  · next tok rest h =>
    rw [strtokrLoop_none, show fields ct s = tok :: fields ct rest from (fields_of_strtokr_some h).1]
    rfl

/-- A `strtokr` loop runs its body on exactly the nonempty fields of the string between
    delimiters, in order, telling it which is the first: each token is a nonempty run of
    non-delimiters, and the tokens, joined, are the string without its delimiters, so a run of
    delimiters separates two tokens as one delimiter does. -/
theorem strtokr_loop_fields {σ : Type} (ct : List Char) (body : σ → Bool → List Char → σ)
    (s saveptr : List Char) (v : σ) :
    strtokrLoop ct body (some s) saveptr v = foldTokens body v (fields ct s) ∧
    (∀ t ∈ fields ct s, t ≠ [] ∧ ∀ x ∈ t, x ∉ ct) ∧
    (fields ct s).flatten = s.filter fun x => x ∉ ct :=
  ⟨strtokrLoop_some ct body s saveptr v, fun _ ht => mem_fields ht, flatten_fields s⟩

example : fields ['&'] "&&tcp&&a#1&".toList = ["tcp".toList, "a#1".toList] := by decide

-- ---------------------------------------------------------------------------
-- print_bufu
-- ---------------------------------------------------------------------------

/-- The variables of `print_bufu` its loops set (`j` and `ret` are never read). -/
structure BufuVars where
  cont : Int
  proto : Int
  con : Int
  p1 : UInt16
  p2 : UInt16
  res : Nat
  addr1 : In6Addr
  addr2 : In6Addr
  deriving DecidableEq, Repr

/-- The variables `print_bufu` starts with; `res` is not initialised, so its value is a
    parameter. -/
def bufuInit (res : Nat) : BufuVars := ⟨0, 0, -1, 0, 0, res, ⟨0, 0, 0, 0⟩, ⟨0, 0, 0, 0⟩⟩

section PrintBufu

variable (in6Pton : List Char → Option In6Addr) (kstrtoul : List Char → Option Nat)

/-- The body of the inner loop on `subtoken`. With `str2` non-`NULL` (the token's first subtoken)
    it is an address: `addr1` when `con` is `0`, `addr2` when it is positive; otherwise a port:
    `p1` the first time, `p2` after. `in6_pton` and `kstrtoul` write nothing when they fail, and
    `p1 = res` keeps the low 16 bits. -/
def bufuSubtoken (v : BufuVars) (str2 : Bool) (subtoken : List Char) : BufuVars :=
  if !str2 then
    let res := (kstrtoul subtoken).getD v.res
    if v.cont = 0 then { v with res := res, p1 := UInt16.ofNat res, cont := v.cont + 1 }
    else { v with res := res, p2 := UInt16.ofNat res }
  else
    let v := if v.con = 0 then { v with addr1 := (in6Pton subtoken).getD v.addr1 }
      else if v.con > 0 then { v with addr2 := (in6Pton subtoken).getD v.addr2 } else v
    { v with con := v.con + 1 }

/-- The body of the outer loop on `token`: the protocol names, then the inner loop over the
    token's subtokens at `#` (its first call is on the token, so the uninitialised `saveptr2` is
    not read). -/
def bufuToken (v : BufuVars) (_ : Bool) (token : List Char) : BufuVars :=
  let proto := if token = "tcp".toList then 6 else if token = "udp".toList then 17
    else if token = "icmp".toList then 1 else v.proto
  strtokrLoop ['#'] (bufuSubtoken in6Pton kstrtoul) (some token) [] { v with proto := proto }

/-- `print_bufu(b)`: the store after the creation the buffer asks for, given what
    `get_tranport_addr` and the allocations give that creation; `proto` other than `6` and `17`
    creates nothing. -/
def printBufu (res : Nat) (st : Store) (b : List Char) (ta : Option TransportAddr)
    (bibOk sessionOk : Bool) : Store :=
  let v := strtokrLoop ['&'] (bufuToken in6Pton kstrtoul) (some b) [] (bufuInit res)
  match v.proto with
  | 6 => (bibSessionCreateTcp st v.addr1 v.addr2 (nat64Extract2 v.addr2 32) (ntohs v.p1)
      (ntohs v.p2) v.proto .tcpTrans ta bibOk sessionOk).2
  | 17 => (bibSessionCreate st v.addr1 v.addr2 (nat64Extract2 v.addr2 32) (ntohs v.p1)
      (ntohs v.p2) v.proto .udpDefault ta bibOk sessionOk).2
  | _ => st

-- ---------------------------------------------------------------------------
-- A well-formed request
-- ---------------------------------------------------------------------------

/-- A field free of the delimiter `c`. -/
theorem forall_not_mem_singleton {c : Char} {t : List Char} (h : c ∉ t) : ∀ x ∈ t, x ∉ [c] :=
  fun _ hx hxc => h (List.mem_singleton.1 hxc ▸ hx)

/-- `a#p` splits at `#` into `a` and `p`. -/
theorem fields_pair {a p : List Char} (ha : a ≠ [] ∧ '#' ∉ a) (hp : p ≠ [] ∧ '#' ∉ p) :
    fields ['#'] (a ++ '#' :: p) = [a, p] := by
  rw [fields_first ha.1 (forall_not_mem_singleton ha.2) (List.mem_singleton_self _),
    fields_single hp.1 (forall_not_mem_singleton hp.2)]

/-- A token holding `#` is no protocol name. -/
theorem bufuToken_pair (v : BufuVars) (first : Bool) {a p : List Char} (ha : a ≠ [] ∧ '#' ∉ a)
    (hp : p ≠ [] ∧ '#' ∉ p) :
    bufuToken in6Pton kstrtoul v first (a ++ '#' :: p) =
      bufuSubtoken in6Pton kstrtoul (bufuSubtoken in6Pton kstrtoul v true a) false p := by
  have hname : ∀ w : List Char, '#' ∉ w → a ++ '#' :: p ≠ w := fun w hw heq =>
    hw (heq ▸ List.mem_append_right a (List.mem_cons_self '#' p))
  simp only [bufuToken, strtokrLoop_some, fields_pair ha hp, foldTokens, List.foldl,
    if_neg (hname "tcp".toList (by decide)), if_neg (hname "udp".toList (by decide)),
    if_neg (hname "icmp".toList (by decide))]

/-- A request `name&a1#p1&a2#p2`, with `name` `tcp` or `udp` and four nonempty fields free of `&`
    and `#`, makes `print_bufu` call `bib_session_create_tcp` on `TCP_TRANS` or
    `bib_session_create` on `UDP_DEFAULT` with the addresses `in6_pton` reads from `a1` and `a2`
    (the unspecified address when it cannot), the IPv4 address in the last word of the second,
    and the ports `kstrtoul` reads from `p1` and `p2`, cut to 16 bits and byte-swapped (a port it
    cannot read keeps the value `res` had). -/
theorem print_bufu_request (res : Nat) (st : Store) (ta : Option TransportAddr)
    (bibOk sessionOk : Bool) {name : List Char} {proto : Int} {type : ExpiryType}
    (hname : name = "tcp".toList ∧ proto = 6 ∧ type = .tcpTrans ∨
      name = "udp".toList ∧ proto = 17 ∧ type = .udpDefault)
    {a1 p1 a2 p2 : List Char} (hfields : ∀ t ∈ [a1, p1, a2, p2], t ≠ [] ∧ '&' ∉ t ∧ '#' ∉ t) :
    printBufu in6Pton kstrtoul res st (name ++ '&' :: ((a1 ++ '#' :: p1) ++ '&' :: (a2 ++ '#' :: p2)))
        ta bibOk sessionOk =
      (bibSessionCreate st ((in6Pton a1).getD ⟨0, 0, 0, 0⟩) ((in6Pton a2).getD ⟨0, 0, 0, 0⟩)
        (nat64Extract2 ((in6Pton a2).getD ⟨0, 0, 0, 0⟩) 32)
        (ntohs (UInt16.ofNat ((kstrtoul p1).getD res)))
        (ntohs (UInt16.ofNat ((kstrtoul p2).getD ((kstrtoul p1).getD res)))) proto type ta bibOk
        sessionOk).2 := by
  obtain ⟨ha1, ha1', ha1''⟩ := hfields a1 (by simp)
  obtain ⟨hp1, hp1', hp1''⟩ := hfields p1 (by simp)
  obtain ⟨ha2, ha2', ha2''⟩ := hfields a2 (by simp)
  obtain ⟨hp2, hp2', hp2''⟩ := hfields p2 (by simp)
  -- the pair tokens hold no `&`
  have hpair : ∀ {a p : List Char}, '&' ∉ a → '&' ∉ p → ∀ x ∈ a ++ '#' :: p, x ∉ ['&'] :=
    fun ha hp x hx hxc => by
      rw [List.mem_singleton.1 hxc] at hx
      simp [ha, hp] at hx
  -- the buffer splits at `&` into the name and the two pairs
  have hsplit : fields ['&'] (name ++ '&' :: ((a1 ++ '#' :: p1) ++ '&' :: (a2 ++ '#' :: p2))) =
      [name, a1 ++ '#' :: p1, a2 ++ '#' :: p2] := by
    have hn : name ≠ [] ∧ ∀ x ∈ name, x ∉ ['&'] := by
      rcases hname with ⟨rfl, -⟩ | ⟨rfl, -⟩ <;> decide
    rw [fields_first hn.1 hn.2 (List.mem_singleton_self _), fields_first (by simp)
      (hpair ha1' hp1') (List.mem_singleton_self _), fields_single (by simp) (hpair ha2' hp2')]
  -- the name token has no `#`, so it is one subtoken
  have hname1 : fields ['#'] name = [name] := by
    rcases hname with ⟨rfl, -⟩ | ⟨rfl, -⟩ <;> decide
  unfold printBufu
  simp only [strtokrLoop_some, hsplit, foldTokens, List.foldl,
    bufuToken_pair in6Pton kstrtoul _ _ ⟨ha1, ha1''⟩ ⟨hp1, hp1''⟩,
    bufuToken_pair in6Pton kstrtoul _ _ ⟨ha2, ha2''⟩ ⟨hp2, hp2''⟩]
  rcases hname with ⟨rfl, rfl, rfl⟩ | ⟨rfl, rfl, rfl⟩ <;>
    simp [bufuToken, strtokrLoop_some, hname1, foldTokens, bufuSubtoken, bufuInit] <;> rfl

/-- The inner loop reads addresses and ports only: `proto` is as the token set it. -/
theorem proto_bufuSubtoken (v : BufuVars) (str2 : Bool) (subtoken : List Char) :
    (bufuSubtoken in6Pton kstrtoul v str2 subtoken).proto = v.proto := by
  unfold bufuSubtoken
  split_ifs <;> rfl

theorem proto_subtokenLoop (w : BufuVars) (token : List Char) :
    (strtokrLoop ['#'] (bufuSubtoken in6Pton kstrtoul) (some token) [] w).proto = w.proto := by
  rw [strtokrLoop_some]
  exact foldTokens_induction (fun x : BufuVars => x.proto = w.proto)
    (fun x _ _ _ hx => (proto_bufuSubtoken in6Pton kstrtoul x _ _).trans hx) rfl

theorem proto_bufuToken (v : BufuVars) (first : Bool) (token : List Char) :
    (bufuToken in6Pton kstrtoul v first token).proto =
      if token = "tcp".toList then 6 else if token = "udp".toList then 17
      else if token = "icmp".toList then 1 else v.proto := by
  unfold bufuToken
  rw [proto_subtokenLoop]

/-- A buffer none of whose fields between `&` is `tcp` or `udp` makes `print_bufu` create
    nothing, whatever else it holds: `proto` is set only by a field naming a protocol, and the
    creation is made for `6` and `17` only. -/
theorem print_bufu_without_protocol (res : Nat) (st : Store) (b : List Char)
    (ta : Option TransportAddr) (bibOk sessionOk : Bool)
    (hb : ∀ t ∈ fields ['&'] b, t ≠ "tcp".toList ∧ t ≠ "udp".toList) :
    printBufu in6Pton kstrtoul res st b ta bibOk sessionOk = st := by
  have hproto : (strtokrLoop ['&'] (bufuToken in6Pton kstrtoul) (some b) [] (bufuInit res)).proto ≠ 6 ∧
      (strtokrLoop ['&'] (bufuToken in6Pton kstrtoul) (some b) [] (bufuInit res)).proto ≠ 17 := by
    rw [strtokrLoop_some]
    refine foldTokens_induction (fun w : BufuVars => w.proto ≠ 6 ∧ w.proto ≠ 17) (fun w _ t ht hw => ?_)
      (by simp [bufuInit])
    obtain ⟨htcp, hudp⟩ := hb t ht
    rw [proto_bufuToken, if_neg htcp, if_neg hudp]
    split_ifs
    · decide
    · exact hw
  unfold printBufu
  generalize strtokrLoop ['&'] (bufuToken in6Pton kstrtoul) (some b) [] (bufuInit res) = v at hproto
  dsimp only
  split
  · next h6 => exact absurd h6 hproto.1
  · next h17 => exact absurd h17 hproto.2
  · rfl

end PrintBufu

theorem print_bufu_without_protocol_icmp :
    (∀ t ∈ fields ['&'] "icmp&a#1&b#2".toList, t ≠ "tcp".toList ∧ t ≠ "udp".toList) ∧
    printBufu (fun _ => none) (fun _ => none) 0 (Store.init (fun _ => 0) 0 0 0 0)
      "icmp&a#1&b#2".toList none true true = Store.init (fun _ => 0) 0 0 0 0 :=
  have hb : ∀ t ∈ fields ['&'] "icmp&a#1&b#2".toList, t ≠ "tcp".toList ∧ t ≠ "udp".toList := by
    decide
  ⟨hb, print_bufu_without_protocol (fun _ => none) (fun _ => none) 0 _ _ none true true hb⟩

theorem print_bufu_request_udp :
    ("udp".toList = "tcp".toList ∧ (17 : Int) = 6 ∧ ExpiryType.udpDefault = .tcpTrans ∨
      "udp".toList = "udp".toList ∧ (17 : Int) = 17 ∧ ExpiryType.udpDefault = .udpDefault) ∧
    (∀ t ∈ ["a".toList, "1".toList, "b".toList, "2".toList], t ≠ [] ∧ '&' ∉ t ∧ '#' ∉ t) ∧
    printBufu (fun _ => none) (fun _ => none) 0 (Store.init (fun _ => 0) 0 0 0 0)
        ("udp".toList ++ '&' :: (("a".toList ++ '#' :: "1".toList) ++ '&' ::
          ("b".toList ++ '#' :: "2".toList))) none true true =
      (bibSessionCreate (Store.init (fun _ => 0) 0 0 0 0) ⟨0, 0, 0, 0⟩ ⟨0, 0, 0, 0⟩
        (nat64Extract2 ⟨0, 0, 0, 0⟩ 32) (ntohs (UInt16.ofNat 0)) (ntohs (UInt16.ofNat 0)) 17
        .udpDefault none true true).2 :=
  have hname : "udp".toList = "tcp".toList ∧ (17 : Int) = 6 ∧ ExpiryType.udpDefault = .tcpTrans ∨
      "udp".toList = "udp".toList ∧ (17 : Int) = 17 ∧ ExpiryType.udpDefault = .udpDefault :=
    .inr ⟨rfl, rfl, rfl⟩
  have hfields : ∀ t ∈ ["a".toList, "1".toList, "b".toList, "2".toList],
      t ≠ [] ∧ '&' ∉ t ∧ '#' ∉ t := by decide
  ⟨hname, hfields, print_bufu_request (fun _ => none) (fun _ => none) 0 _ none true true hname hfields⟩

end Jool.Filtering
