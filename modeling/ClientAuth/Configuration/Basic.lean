import ClientAuth.Setting.Basic

/-! A configuration is a chain of settings over a common base. Deriving a configuration leaves the
one it is derived from as it is, and shares with it the part of the chain that does not change. -/

namespace ClientAuth

structure Node where
  id : Identity
  setting : Setting
  deriving DecidableEq, Hashable, Inhabited

/-- The newest setting stands first; the base has none. -/
structure Configuration where
  nodes : List Node
  deriving DecidableEq, Inhabited

namespace Configuration

def base : Configuration :=
  ⟨[]⟩

def settings (c : Configuration) : List Setting :=
  c.nodes.map Node.setting

/-- Every chain is told by its newest node, and the base by having none. -/
def head? (c : Configuration) : Option Identity :=
  c.nodes.head?.map Node.id

def sameChain (a b : Configuration) : Bool :=
  a.head? = b.head?

def hasKind (c : Configuration) (kind : SettingKind) : Bool :=
  c.settings.any fun setting => setting.kind = kind

def link (c : Configuration) (setting : Setting) : Mint Configuration :=
  return ⟨⟨← Mint.fresh, setting⟩ :: c.nodes⟩

/-- The chain without settings of the given kinds, or `none` where it has none to remove. What
lies below the lowest removed setting is shared. Each setting kept above it is put on anew, and so
takes the place of the settings it displaces once more. -/
def trim? (kinds : List SettingKind) (nodes : List Node) :
    Mint (Option {kept : List Node // kept.length < nodes.length}) :=
  match nodes with
  | [] => return none
  | node :: below => do
    match ← trim? kinds below, decide (node.setting.kind ∈ kinds) with
    | none, true => return some ⟨below, by simp⟩
    | none, false => return none
    | some ⟨trimmed, shorter⟩, true => return some ⟨trimmed, by grind⟩
    | some ⟨trimmed, shorter⟩, false =>
      match ← trim? node.setting.kind.displaces trimmed with
      | none => return some ⟨⟨← Mint.fresh, node.setting⟩ :: trimmed, by grind⟩
      | some ⟨cleared, _⟩ => return some ⟨⟨← Mint.fresh, node.setting⟩ :: cleared, by grind⟩
  termination_by nodes.length

def withoutAny (c : Configuration) (kinds : List SettingKind) : Mint Configuration :=
  return ((← trim? kinds c.nodes).map fun kept => ⟨kept⟩).getD c

def without (c : Configuration) (kind : SettingKind) : Mint Configuration :=
  c.withoutAny [kind]

/-- Puts a setting on top of the chain, in place of the settings it displaces. -/
def overlay (c : Configuration) (setting : Setting) : Mint Configuration := do
  (← c.withoutAny setting.kind.displaces).link setting

def overlayAll (c : Configuration) : List Setting → Mint Configuration
  | [] => return c
  | setting :: rest => do (← c.overlay setting).overlayAll rest

/-- What `other` sets replaces the same piece of `c`; the rest of `c` stays. Stacked settings are
replaced as a whole. -/
def merge (c other : Configuration) : Mint Configuration := do
  let stacked := (other.settings.map Setting.kind).filter SettingKind.isMultiValued
  (← c.withoutAny stacked).overlayAll other.settings.reverse

end Configuration

end ClientAuth
