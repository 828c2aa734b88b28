import ClientAuth.Configuration.Basic

/-! Equality of configurations. Two configurations are equal if the same settings are in effect,
in whatever order they were made; settings that restate a default do not count. -/

namespace ClientAuth

/-- The settings in effect by kind, in the order of the kinds; kinds without any are left out. -/
abbrev Canonical := List (SettingKind × List Setting)

namespace Configuration

/-- Of a kind that stacks all settings are in effect, oldest first; of another the newest. -/
def effective (c : Configuration) (kind : SettingKind) : List Setting :=
  let settings := c.settings.filter fun setting => !setting.isDefault && setting.kind = kind
  if kind.isMultiValued then settings.reverse else settings.take 1

def canonical (c : Configuration) : Canonical :=
  (SettingKind.all.map fun kind => (kind, c.effective kind)).filter fun entry =>
    !entry.2.isEmpty

/-- Whether all that is in effect in `c` is in effect in `other`. -/
def effectiveIn (c other : Configuration) : Bool :=
  c.canonical.all fun entry => other.canonical.lookup entry.1 = some entry.2

end Configuration

/-- Digests of configurations by chain, zero where none is known. -/
structure DigestCache where
  known : List (Option Identity × UInt64)
  deriving Inhabited

namespace DigestCache

def empty : DigestCache :=
  ⟨[]⟩

def get (cache : DigestCache) (chain : Option Identity) : UInt64 :=
  (cache.known.lookup chain).getD 0

def put (cache : DigestCache) (chain : Option Identity) (value : UInt64) : DigestCache :=
  ⟨(chain, value) :: cache.known⟩

end DigestCache

namespace Configuration

/-- The digest of what is in effect, worked out once per chain. Zero stands for "not known". -/
def digest (hash : Canonical → UInt64) (c : Configuration) : StateM DigestCache UInt64 := do
  let known := (← get).get c.head?
  if known ≠ 0 then return known
  let computed := hash c.canonical
  let computed := if computed = 0 then 1 else computed
  modify (·.put c.head? computed)
  return computed

/-- Whether two configurations are equal. Chains that are the same need no look inside, nor do
chains whose digests differ. -/
def isEqual (hash : Canonical → UInt64) (a b : Configuration) : StateM DigestCache Bool := do
  if a.sameChain b then return true
  let digestA ← a.digest hash
  let digestB ← b.digest hash
  return digestA = digestB && a.effectiveIn b && b.effectiveIn a

end Configuration

end ClientAuth
