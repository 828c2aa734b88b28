import Mathlib.Data.List.Forall2
import ClientAuth.Configuration.Rendering
import ClientAuth.Proofs.Reachability

/-! What the text of a configuration gives away. Texts end up in logs, so chains that differ in
secrets alone, or in the objects that they refer to, have the same one. -/

namespace ClientAuth

/-- The same but for what is secret: of a credential that is all but its kind. -/
inductive Credential.SameButSecrets : Credential → Credential → Prop
  | password (text text' : String) : SameButSecrets (.password ⟨text⟩) (.password ⟨text'⟩)
  | bearerToken (text text' : String) :
    SameButSecrets (.bearerToken ⟨text⟩) (.bearerToken ⟨text'⟩)
  | certificateChain (privateKey privateKey' : Bytes) (certificates certificates' : List Bytes) :
    SameButSecrets (.certificateChain ⟨privateKey, certificates⟩)
      (.certificateChain ⟨privateKey', certificates'⟩)
  | gssKerberos (bytes bytes' : Bytes) : SameButSecrets (.gssKerberos ⟨bytes⟩) (.gssKerberos ⟨bytes'⟩)

/-- The same but for the secrets at any depth, and the stores and handlers that are asked. -/
inductive CredentialSource.SameButSecrets : CredentialSource → CredentialSource → Prop
  | held {entries entries' : List Credential}
    (h : List.Forall₂ Credential.SameButSecrets entries entries') :
    SameButSecrets (.held ⟨entries⟩) (.held ⟨entries'⟩)
  | keyStore (store store' : Ref .keyStore) (entry : String)
    (protection protection' : Option Password) :
    SameButSecrets (.keyStore store entry protection) (.keyStore store' entry protection')
  | credentialStore (store store' : Ref .credentialStore) (entry : String) :
    SameButSecrets (.credentialStore store entry) (.credentialStore store' entry)
  | callback (handler handler' : Ref .callbackHandler) :
    SameButSecrets (.callback handler) (.callback handler')
  | layered {first first' second second' : CredentialSource} (hf : SameButSecrets first first')
    (hs : SameButSecrets second second') :
    SameButSecrets (.layered first second) (.layered first' second')
  | masked {inner inner' : CredentialSource} (h : SameButSecrets inner inner')
    (hidden : CredentialKind) : SameButSecrets (.masked inner hidden) (.masked inner' hidden)

/-- The same but for the secrets among the credentials, and for the objects that the setting refers
to. Whether such an object is the one that stands for a default does show. -/
inductive Setting.SameButSecrets : Setting → Setting → Prop
  | same (setting : Setting) : SameButSecrets setting setting
  | credentials {source source' : CredentialSource} (h : source.SameButSecrets source') :
    SameButSecrets (.credentials source) (.credentials source')
  | nameMapping (mapping mapping' : NameMapping) :
    SameButSecrets (.nameMapping mapping) (.nameMapping mapping')
  | trustManager {factory factory' : TrustManagerFactory}
    (h : factory = .platform ↔ factory' = .platform) :
    SameButSecrets (.trustManager factory) (.trustManager factory')
  | keyManager (factory factory' : KeyManagerFactory) :
    SameButSecrets (.keyManager factory) (.keyManager factory')
  | providers {supplier supplier' : ProviderSupplier}
    (h : supplier = .installed ↔ supplier' = .installed) :
    SameButSecrets (.providers supplier) (.providers supplier')
  | clientFactory (supplier supplier' : FactorySupplier) :
    SameButSecrets (.clientFactory supplier) (.clientFactory supplier')
  | parameterSpecs {specs specs' : List ParameterSpec} (h : specs.length = specs'.length) :
    SameButSecrets (.parameterSpecs specs) (.parameterSpecs specs')
  | choice (operation operation' : ChoiceOperation) :
    SameButSecrets (.choice operation) (.choice operation')
  | forward (forwarded forwarded' : ForwardedIdentity) :
    SameButSecrets (.forward forwarded) (.forward forwarded')
  | callbackHandler (handler handler' : Ref .callbackHandler) :
    SameButSecrets (.callbackHandler handler) (.callbackHandler handler')

def Configuration.SameButSecrets (a b : Configuration) : Prop :=
  List.Forall₂ Setting.SameButSecrets a.settings b.settings

theorem map_eq_map_of_forall₂ {α β γ : Type} {R : α → β → Prop} {f : α → γ} {g : β → γ}
    {as : List α} {bs : List β} (h : List.Forall₂ R as bs) (hR : ∀ a b, R a b → f a = g b) :
    as.map f = bs.map g := by
  induction h with
  | nil => rfl
  | cons hab _ ih => rw [List.map_cons, List.map_cons, hR _ _ hab, ih]

theorem Credential.SameButSecrets.kind_eq {credential credential' : Credential}
    (h : credential.SameButSecrets credential') : credential.kind = credential'.kind := by
  cases h <;> rfl

namespace CredentialSource

theorem describe_held (credentials : CredentialSet) : (held credentials).describe =
    "[" ++ " ".intercalate (credentials.kinds.map CredentialKind.label) ++ "]" :=
  rfl

theorem describe_layered (first second : CredentialSource) :
    (layered first second).describe = first.describe ++ "+" ++ second.describe :=
  rfl

theorem describe_masked (inner : CredentialSource) (hidden : CredentialKind) :
    (masked inner hidden).describe = inner.describe ++ "-" ++ hidden.label :=
  rfl

theorem SameButSecrets.describe_eq {source source' : CredentialSource}
    (h : source.SameButSecrets source') : source.describe = source'.describe := by
  induction h with
  | held h =>
    have hkinds := map_eq_map_of_forall₂ h fun _ _ => Credential.SameButSecrets.kind_eq
    rw [describe_held, describe_held, CredentialSet.kinds, CredentialSet.kinds, hkinds]
  | keyStore => rfl
  | credentialStore => rfl
  | callback => rfl
  | layered _ _ ihf ihs => rw [describe_layered, describe_layered, ihf, ihs]
  | masked _ hidden ih => rw [describe_masked, describe_masked, ih]

end CredentialSource

theorem Setting.SameButSecrets.render_eq {setting setting' : Setting}
    (h : setting.SameButSecrets setting') : setting.render = setting'.render := by
  cases h with
  | credentials h => simp only [render, kind, valueText, h.describe_eq]
  | trustManager h => simp only [render, kind, valueText, h]
  | providers h => simp only [render, kind, valueText, h]
  | parameterSpecs h => simp only [render, kind, valueText, h]
  | _ => rfl

/-- Chains that are the same but for secrets, however deep in a source these lie, and for the objects
outside the library have the same text. -/
theorem render_eq_of_sameButSecrets {a b : Configuration} (h : a.SameButSecrets b) :
    a.render = b.render := by
  have htexts := map_eq_map_of_forall₂ h fun _ _ => Setting.SameButSecrets.render_eq
  rw [Configuration.render, Configuration.render, List.map_reverse, List.map_reverse, htexts]

/-- In both runs the handler is put before what is held and what a store has, with the password hidden
there; only the kinds of the credentials show. -/
theorem render_eq_of_sameButSecrets_passwords :
    let calls (secret : String) (id : Identity) : List Derivation :=
      [.useName "alice", .useBearerToken ⟨secret⟩,
        .useKeyStoreEntry ⟨id⟩ "entry" (some ⟨secret⟩), .usePassword (some ⟨secret⟩),
        .useCredentialHandler ⟨id⟩, .useCallbackHandler ⟨id⟩]
    let first := Stock.initial.follow .base (calls "secret" ⟨0⟩)
    let second := Stock.initial.follow .base (calls "other" ⟨1⟩)
    first.1.Reachable ∧ first.2 ∈ first.1.made ∧ second.1.Reachable ∧ second.2 ∈ second.1.made ∧
      first.2.settings ≠ second.2.settings ∧ first.2.SameButSecrets second.2 ∧
      first.2.render = second.2.render := by
  intro calls first second
  have h := Stock.reachable_initial.follow Stock.mem_base (calls "secret" ⟨0⟩)
  have h' := Stock.reachable_initial.follow Stock.mem_base (calls "other" ⟨1⟩)
  let source (secret : String) (id : Identity) : CredentialSource :=
    .layered (.callback ⟨id⟩) (.layered (.held ⟨[.password ⟨secret⟩]⟩) (.masked
      (.layered (.keyStore ⟨id⟩ "entry" (some ⟨secret⟩)) (.held ⟨[.bearerToken ⟨secret⟩]⟩))
      .password))
  let settings (secret : String) (id : Identity) : List Setting :=
    [.callbackHandler ⟨id⟩, .credentials (source secret id), .identity (.named ⟨"alice"⟩)]
  have hfirst : first.2.settings = settings "secret" ⟨0⟩ := by decide +kernel
  have hsecond : second.2.settings = settings "other" ⟨1⟩ := by decide +kernel
  have hsource : (source "secret" ⟨0⟩).SameButSecrets (source "other" ⟨1⟩) :=
    .layered (.callback _ _) (.layered (.held (.cons (.password _ _) .nil))
      (.masked (.layered (.keyStore _ _ _ _ _) (.held (.cons (.bearerToken _ _) .nil))) _))
  have hsame : first.2.SameButSecrets second.2 := by
    rw [Configuration.SameButSecrets, hfirst, hsecond]
    exact .cons (.callbackHandler _ _) (.cons (.credentials hsource) (.cons (.same _) .nil))
  exact ⟨h.1, h.2.1, h'.1, h'.2.1, by decide +kernel, hsame, render_eq_of_sameButSecrets hsame⟩

end ClientAuth
