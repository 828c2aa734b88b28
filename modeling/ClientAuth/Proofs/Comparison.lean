import ClientAuth.Proofs.Effective

/-! Comparing where digests are at hand. Comparing and hashing leave digests behind, and each stands
for what is in effect in its chain, so equality depends neither on what is known nor on collisions. -/

namespace ClientAuth

namespace DigestCache

/-- What comparing and hashing configurations out of `made` can leave in the cache. -/
inductive Reached (hash : Canonical → UInt64) (made : List Configuration) : DigestCache → Prop
  | empty : Reached hash made .empty
  | digest {cache : DigestCache} {c : Configuration} (h : Reached hash made cache)
    (hc : c ∈ made) : Reached hash made ((c.digest hash).run cache).2
  | isEqual {cache : DigestCache} {a b : Configuration} (h : Reached hash made cache)
    (ha : a ∈ made) (hb : b ∈ made) : Reached hash made ((a.isEqual hash b).run cache).2

theorem get_put_self (cache : DigestCache) (chain : Option Identity) (value : UInt64) :
    (cache.put chain value).get chain = value := by
  simp [get, put]

theorem get_put_of_ne (cache : DigestCache) {chain chain' : Option Identity} (value : UInt64)
    (h : chain' ≠ chain) : (cache.put chain value).get chain' = cache.get chain' := by
  have hb : (chain' == chain) = false := beq_eq_false_iff_ne.mpr h
  simp [get, put, List.lookup_cons, hb]

end DigestCache

namespace Configuration

variable {a b c : Configuration} {hash : Canonical → UInt64} {cache : DigestCache}

/-- The digest of a chain that none is known of. -/
def fingerprint (hash : Canonical → UInt64) (c : Configuration) : UInt64 :=
  if hash c.canonical = 0 then 1 else hash c.canonical

theorem digest_run_known (h : cache.get c.head? ≠ 0) :
    (c.digest hash).run cache = (cache.get c.head?, cache) := by
  show (if cache.get c.head? ≠ 0 then _ else _ : StateM DigestCache UInt64).run cache = _
  rw [if_pos h]
  rfl

theorem digest_run_unknown (h : cache.get c.head? = 0) :
    (c.digest hash).run cache = (c.fingerprint hash, cache.put c.head? (c.fingerprint hash)) := by
  show (if cache.get c.head? ≠ 0 then _ else _ : StateM DigestCache UInt64).run cache = _
  rw [if_neg (not_not_intro h)]
  rfl

theorem isEqual_run_same (h : a.sameChain b = true) :
    (a.isEqual hash b).run cache = (true, cache) := by
  rw [isEqual, if_pos h]
  rfl

theorem isEqual_run_other (h : ¬ a.sameChain b = true) :
    (a.isEqual hash b).run cache =
      let digestA := (a.digest hash).run cache
      let digestB := (b.digest hash).run digestA.2
      (decide (digestA.1 = digestB.1) && a.effectiveIn b && b.effectiveIn a, digestB.2) := by
  rw [isEqual, if_neg h]
  rfl

theorem fingerprint_congr (h : a.canonical = b.canonical) :
    a.fingerprint hash = b.fingerprint hash := by
  simp only [fingerprint, h]

end Configuration

namespace Stock

variable {stock : Stock} {a b c : Configuration} {hash : Canonical → UInt64}
  {cache cache' : DigestCache}

/-- Every digest known of a chain of the stock is its fingerprint. -/
def Knows (stock : Stock) (hash : Canonical → UInt64) (cache : DigestCache) : Prop :=
  ∀ c ∈ stock.made, cache.get c.head? = 0 ∨ cache.get c.head? = c.fingerprint hash

theorem Coherent.knows_put (hs : stock.Coherent) (hk : stock.Knows hash cache)
    (hc : c ∈ stock.made) : stock.Knows hash (cache.put c.head? (c.fingerprint hash)) := by
  intro d hd
  by_cases hhead : d.head? = c.head?
  · have hsame : d = c := hs.eq_of_sameChain hd hc (by simpa [Configuration.sameChain] using hhead)
    rw [hsame, DigestCache.get_put_self]
    exact .inr rfl
  · rw [DigestCache.get_put_of_ne cache _ hhead]
    exact hk d hd

/-- Whatever is known, a digest is the fingerprint, and stays one that is right. -/
theorem Coherent.digest_run (hs : stock.Coherent) (hk : stock.Knows hash cache)
    (hc : c ∈ stock.made) :
    ((c.digest hash).run cache).1 = c.fingerprint hash ∧
      stock.Knows hash ((c.digest hash).run cache).2 := by
  by_cases h : cache.get c.head? = 0
  · rw [Configuration.digest_run_unknown h]
    exact ⟨rfl, hs.knows_put hk hc⟩
  · rw [Configuration.digest_run_known h]
    exact ⟨(hk c hc).resolve_left h, hk⟩

theorem Coherent.knows_isEqual (hs : stock.Coherent) (hk : stock.Knows hash cache)
    (ha : a ∈ stock.made) (hb : b ∈ stock.made) :
    stock.Knows hash ((a.isEqual hash b).run cache).2 := by
  by_cases h : a.sameChain b = true
  · rw [Configuration.isEqual_run_same h]
    exact hk
  · rw [Configuration.isEqual_run_other h]
    exact (hs.digest_run (hs.digest_run hk ha).2 hb).2

theorem Coherent.knows_of_reached (hs : stock.Coherent) (h : cache.Reached hash stock.made) :
    stock.Knows hash cache := by
  induction h with
  | empty => exact fun c _ => .inl rfl
  | digest _ hc ih => exact (hs.digest_run ih hc).2
  | isEqual _ ha hb ih => exact hs.knows_isEqual ih ha hb

/-- Two configurations are equal if and only if they tell the same settings, whatever is known. -/
theorem Coherent.isEqual_iff (hs : stock.Coherent) (ha : a ∈ stock.made) (hb : b ∈ stock.made)
    (hr : cache.Reached hash stock.made) :
    ((a.isEqual hash b).run cache).1 = true ↔ ∀ kind, a.told kind = b.told kind := by
  refine ⟨fun h => hs.told_eq ha hb h, ?_⟩
  intro h
  by_cases hsame : a.sameChain b = true
  · rw [Configuration.isEqual_run_same hsame]
  · have hcan : a.canonical = b.canonical :=
      ((hs.lawful a ha).wellFormed.canonical_eq_iff_told (hs.lawful b hb).wellFormed).mpr h
    have hfp : a.fingerprint hash = b.fingerprint hash := Configuration.fingerprint_congr hcan
    have hin := Configuration.effective_eq_iff.mpr (Configuration.canonical_eq_iff.mp hcan)
    have hk := hs.knows_of_reached hr
    obtain ⟨hda, hka⟩ := hs.digest_run hk ha
    obtain ⟨hdb, -⟩ := hs.digest_run hka hb
    rw [Configuration.isEqual_run_other hsame]
    simp only [hda, hdb, hfp, hin.1, hin.2, decide_true, Bool.and_self]

theorem Reachable.isEqual_iff (hs : stock.Reachable) (ha : a ∈ stock.made) (hb : b ∈ stock.made)
    (hr : cache.Reached hash stock.made) :
    ((a.isEqual hash b).run cache).1 = true ↔ ∀ kind, a.told kind = b.told kind :=
  hs.coherent.isEqual_iff ha hb hr

/-- In the stock the two compare equal and hash alike, whatever has been compared and hashed
before. -/
structure Equates (stock : Stock) (a b : Configuration) : Prop where
  isEqual : ∀ {hash : Canonical → UInt64} {cache : DigestCache}, cache.Reached hash stock.made →
    ((a.isEqual hash b).run cache).1 = true
  digest : ∀ {hash : Canonical → UInt64} {cache cache' : DigestCache},
    cache.Reached hash stock.made → cache'.Reached hash stock.made →
      ((a.digest hash).run cache).1 = ((b.digest hash).run cache').1

theorem Coherent.equates (hs : stock.Coherent) (ha : a ∈ stock.made) (hb : b ∈ stock.made)
    (h : ∀ kind, a.told kind = b.told kind) : stock.Equates a b where
  isEqual hr := (hs.isEqual_iff ha hb hr).mpr h
  digest hr hr' := by
    have hcan : a.canonical = b.canonical :=
      ((hs.lawful a ha).wellFormed.canonical_eq_iff_told (hs.lawful b hb).wellFormed).mpr h
    rw [(hs.digest_run (hs.knows_of_reached hr) ha).1,
      (hs.digest_run (hs.knows_of_reached hr') hb).1]
    exact Configuration.fingerprint_congr hcan

theorem Reachable.equates (hs : stock.Reachable) (ha : a ∈ stock.made) (hb : b ∈ stock.made)
    (h : ∀ kind, a.told kind = b.told kind) : stock.Equates a b :=
  hs.coherent.equates ha hb h

end Stock

/-- Configurations are equal exactly if their canonical maps are: by kind the setting that does not
restate a default, of a kind that stacks all of them, oldest first. So equality is an equivalence, and
what is equal hashes alike, whatever the hash, its collisions, and what is known of it from before. -/
theorem isEqual_iff_canonical {stock : Stock} (hs : stock.Reachable) {hash : Canonical → UInt64}
    {cache : DigestCache} (hr : cache.Reached hash stock.made) :
    (∀ a ∈ stock.made, ∀ b ∈ stock.made,
      (((a.isEqual hash b).run cache).1 = true ↔ a.canonical = b.canonical) ∧
        (a.canonical = b.canonical → stock.Equates a b)) ∧
      Equivalence (fun a b : {c // c ∈ stock.made} =>
        ((a.val.isEqual hash b.val).run cache).1 = true) ∧
      ∀ c ∈ stock.made,
        ((c.digest hash).run cache).1 = (if hash c.canonical = 0 then 1 else hash c.canonical) ∧
        ∀ kind,
          (∀ settings, c.canonical.lookup kind = some settings ↔
            (if kind.isMultiValued then (c.told kind).reverse else c.told kind) = settings ∧
              settings ≠ []) ∧
          (kind.isMultiValued = false → (c.told kind).length ≤ 1) := by
  have hcoh := hs.coherent
  have htold : ∀ a ∈ stock.made, ∀ b ∈ stock.made,
      (a.canonical = b.canonical ↔ ∀ kind, a.told kind = b.told kind) := fun a ha b hb =>
    (hcoh.lawful a ha).wellFormed.canonical_eq_iff_told (hcoh.lawful b hb).wellFormed
  have hiff : ∀ a ∈ stock.made, ∀ b ∈ stock.made,
      (((a.isEqual hash b).run cache).1 = true ↔ a.canonical = b.canonical) := by
    intro a ha b hb
    rw [htold a ha b hb]
    exact hs.isEqual_iff ha hb hr
  refine ⟨?_, ⟨?_, ?_, ?_⟩, ?_⟩
  · intro a ha b hb
    exact ⟨hiff a ha b hb, fun h => hs.equates ha hb ((htold a ha b hb).mp h)⟩
  · rintro ⟨a, ha⟩
    exact (hiff a ha a ha).mpr rfl
  · rintro ⟨a, ha⟩ ⟨b, hb⟩ h
    exact (hiff b hb a ha).mpr ((hiff a ha b hb).mp h).symm
  · rintro ⟨a, ha⟩ ⟨b, hb⟩ ⟨c, hc⟩ h h'
    exact (hiff a ha c hc).mpr (((hiff a ha b hb).mp h).trans ((hiff b hb c hc).mp h'))
  · intro c hc
    have hwf := (hcoh.lawful c hc).wellFormed
    refine ⟨(hcoh.digest_run (hcoh.knows_of_reached hr) hc).1, ?_⟩
    intro kind
    constructor
    · intro settings
      rw [Configuration.lookup_canonical_iff, hwf.effective_eq]
    · intro hk
      exact hwf.length_told_le (of_decide_eq_false hk)

theorem isEqual_iff_canonical_of_collision :
    let first := Stock.initial.follow .base
      [.useName "alice", .useBearerToken ⟨"token"⟩, .usePassword (some ⟨"secret"⟩)]
    let second := first.1.follow .base [.useBearerToken ⟨"token"⟩,
      .usePassword (some ⟨"secret"⟩), .useTrustManager none, .useName "alice"]
    let third := second.1.follow .base
      [.usePassword (some ⟨"secret"⟩), .useBearerToken ⟨"token"⟩, .useName "alice"]
    let hash := fun _ : Canonical => (0 : UInt64)
    let cache := ((first.2.isEqual hash third.2).run ((second.2.digest hash).run .empty).2).2
    third.1.Reachable ∧ cache.Reached hash third.1.made ∧ first.2 ∈ third.1.made ∧
      second.2 ∈ third.1.made ∧ third.2 ∈ third.1.made ∧
      first.2.settings ≠ second.2.settings ∧
      ((first.2.isEqual hash second.2).run cache).1 = true ∧
      ((first.2.digest hash).run cache).1 = ((third.2.digest hash).run cache).1 ∧
      ((first.2.isEqual hash third.2).run cache).1 = false := by
  intro first second third hash cache
  have h := Stock.reachable_initial.follow Stock.mem_base
    [.useName "alice", .useBearerToken ⟨"token"⟩, .usePassword (some ⟨"secret"⟩)]
  have h' := h.1.follow (h.2.2 Stock.mem_base) [.useBearerToken ⟨"token"⟩,
    .usePassword (some ⟨"secret"⟩), .useTrustManager none, .useName "alice"]
  have h'' := h'.1.follow (h'.2.2 (h.2.2 Stock.mem_base))
    [.usePassword (some ⟨"secret"⟩), .useBearerToken ⟨"token"⟩, .useName "alice"]
  have hfirst := h''.2.2 (h'.2.2 h.2.1)
  have hsecond := h''.2.2 h'.2.1
  have hr : cache.Reached hash third.1.made := (DigestCache.Reached.empty.digest hsecond).isEqual
    hfirst h''.2.1
  obtain ⟨hiff, -, hdigest⟩ := isEqual_iff_canonical h''.1 hr
  refine ⟨h''.1, hr, hfirst, hsecond, h''.2.1, by decide +kernel, ?_, ?_, ?_⟩
  · exact (hiff _ hfirst _ hsecond).1.mpr (by decide +kernel)
  · rw [(hdigest _ hfirst).1, (hdigest _ h''.2.1).1]
  · apply Bool.eq_false_iff.mpr
    intro heq
    exact absurd ((hiff _ hfirst _ h''.2.1).1.mp heq) (by decide +kernel)

end ClientAuth
