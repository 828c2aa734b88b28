import Mathlib.Data.List.Induction
import Mathlib.Data.List.Nodup
import ClientAuth.Proofs.FirstPerKey
import ClientAuth.Proofs.Hiding

/-! Sets of credentials as ordered maps. A set is a plain list, and nothing in it keeps two entries of
one kind apart but the operations themselves, the union only as far as its second operand does. Where
an entry stands counts as well, since sets are compared entry by entry. -/

namespace ClientAuth

namespace CredentialSet

variable {set other : CredentialSet} {kind : CredentialKind} {credential : Credential}

/-- The sets that can be made, the operands of a union being made in the same way. -/
inductive Reachable : CredentialSet → Prop
  | empty : Reachable empty
  | ofList (credentials : List Credential) : Reachable (ofList credentials)
  | insert {set : CredentialSet} (h : Reachable set) (credential : Credential) :
    Reachable (set.insert credential)
  | union {set other : CredentialSet} (h : Reachable set) (h' : Reachable other) :
    Reachable (set.union other)
  | erase {set : CredentialSet} (h : Reachable set) (kind : CredentialKind) :
    Reachable (set.erase kind)

def Distinct (set : CredentialSet) : Prop :=
  set.kinds.Nodup

/-- A set as an ordered map from kinds: a new kind comes last, a kind that is listed keeps its place,
and what happens to one kind leaves the entries of all others as they are. -/
structure KindsOnce (set : CredentialSet) : Prop where
  distinct : set.Distinct
  insert_new : ∀ credential : Credential, credential.kind ∉ set.kinds →
    (set.insert credential).entries = set.entries ++ [credential]
  insert_listed : ∀ credential : Credential, credential.kind ∈ set.kinds →
    ∃ before listed after, set.entries = before ++ listed :: after ∧
      listed.kind = credential.kind ∧
        (set.insert credential).entries = before ++ credential :: after
  get?_insert : ∀ (credential : Credential) (kind : CredentialKind),
    (set.insert credential).get? kind =
      if credential.kind = kind then some credential else set.get? kind
  erase_listed : ∀ kind ∈ set.kinds, ∃ before listed after,
    set.entries = before ++ listed :: after ∧ listed.kind = kind ∧
      (set.erase kind).entries = before ++ after
  erase_absent : ∀ kind, kind ∉ set.kinds → set.erase kind = set
  get?_erase : ∀ hidden kind : CredentialKind,
    (set.erase hidden).get? kind = if kind = hidden then none else set.get? kind

theorem contains_iff : set.contains kind = true ↔ kind ∈ set.kinds := by
  simp [contains, get?, kinds]

theorem contains_eq_decide (set : CredentialSet) (kind : CredentialKind) :
    set.contains kind = decide (kind ∈ set.kinds) := by
  rw [Bool.eq_iff_iff, contains_iff, decide_eq_true_eq]

theorem exists_listed (h : kind ∈ set.kinds) : ∃ before listed after,
    set.entries = before ++ listed :: after ∧ listed.kind = kind ∧
      kind ∉ before.map Credential.kind := by
  obtain ⟨listed, hm, rfl⟩ := List.mem_map.mp (mem_map_firstPerKey.mpr h)
  obtain ⟨before, after, hsplit, hbefore⟩ := mem_firstPerKey.mp hm
  exact ⟨before, listed, after, hsplit, rfl, hbefore⟩

theorem putEntry_of_new {entries : List Credential}
    (h : credential.kind ∉ entries.map Credential.kind) :
    putEntry credential entries = entries ++ [credential] := by
  induction entries with
  | nil => rfl
  | cons head rest ih =>
    rw [List.map_cons, List.mem_cons, not_or] at h
    rw [putEntry, if_neg (Ne.symm h.1), ih h.2, List.cons_append]

theorem putEntry_of_listed {before after : List Credential} {listed : Credential}
    (hl : listed.kind = credential.kind) (hb : credential.kind ∉ before.map Credential.kind) :
    putEntry credential (before ++ listed :: after) = before ++ credential :: after := by
  induction before with
  | nil => exact if_pos hl
  | cons head rest ih =>
    rw [List.map_cons, List.mem_cons, not_or] at hb
    rw [List.cons_append, putEntry, if_neg (Ne.symm hb.1), ih hb.2, List.cons_append]

theorem insert_of_listed (h : credential.kind ∈ set.kinds) : ∃ before listed after,
    set.entries = before ++ listed :: after ∧ listed.kind = credential.kind ∧
      (set.insert credential).entries = before ++ credential :: after := by
  obtain ⟨before, listed, after, hsplit, hl, hbefore⟩ := exists_listed h
  refine ⟨before, listed, after, hsplit, hl, ?_⟩
  rw [insert, hsplit]
  exact putEntry_of_listed hl hbefore

theorem kinds_insert (set : CredentialSet) (credential : Credential) :
    (set.insert credential).kinds =
      if credential.kind ∈ set.kinds then set.kinds else set.kinds ++ [credential.kind] := by
  split
  · next h =>
    obtain ⟨before, listed, after, hsplit, hl, hinsert⟩ := insert_of_listed h
    rw [kinds, kinds, hinsert, hsplit]
    simp only [List.map_append, List.map_cons, hl]
  · next h =>
    rw [kinds, insert, putEntry_of_new h, List.map_append]
    rfl

theorem entries_union (set other : CredentialSet) :
    (set.union other).entries =
      set.entries ++ other.entries.filter fun credential => credential.kind ∉ set.kinds := by
  show set.entries ++ other.entries.filter _ = _
  congr 1
  apply List.filter_congr
  intro credential _
  rw [contains_eq_decide, decide_not]

theorem kinds_union (set other : CredentialSet) :
    (set.union other).kinds = set.kinds ++ other.kinds.filter fun kind => kind ∉ set.kinds := by
  rw [kinds, entries_union, List.map_append, kinds, kinds, List.filter_map]
  rfl

theorem distinct_empty : empty.Distinct :=
  List.nodup_nil

theorem Distinct.insert (h : set.Distinct) (credential : Credential) :
    (set.insert credential).Distinct := by
  rw [Distinct, kinds_insert]
  split
  · exact h
  · next hn =>
    rw [← List.concat_eq_append]
    exact List.Nodup.concat hn h

theorem Distinct.union (h : set.Distinct) (h' : other.Distinct) :
    (set.union other).Distinct := by
  rw [Distinct, kinds_union]
  refine List.nodup_append.mpr ⟨h, h'.filter _, ?_⟩
  rintro kind hm _ hk rfl
  exact of_decide_eq_true (List.mem_filter.mp hk).2 hm

theorem Distinct.erase (h : set.Distinct) (kind : CredentialKind) : (set.erase kind).Distinct :=
  h.sublist (List.filter_sublist.map Credential.kind)

theorem ofList_concat (credentials : List Credential) (credential : Credential) :
    ofList (credentials ++ [credential]) = (ofList credentials).insert credential := by
  rw [ofList, List.foldl_append]
  rfl

theorem distinct_ofList (credentials : List Credential) : (ofList credentials).Distinct := by
  induction credentials using List.reverseRecOn with
  | nil => exact distinct_empty
  | append_singleton credentials credential ih =>
    rw [ofList_concat]
    exact ih.insert credential

theorem Reachable.distinct (h : set.Reachable) : set.Distinct := by
  induction h with
  | empty => exact distinct_empty
  | ofList credentials => exact distinct_ofList credentials
  | insert h credential ih => exact ih.insert credential
  | union h h' ih ih' => exact ih.union ih'
  | erase h kind ih => exact ih.erase kind

/-- The last credential of each kind counts. -/
theorem get?_ofList (credentials : List Credential) (kind : CredentialKind) :
    (ofList credentials).get? kind =
      (credentials.filter fun credential => credential.kind = kind).getLast? := by
  induction credentials using List.reverseRecOn with
  | nil => rfl
  | append_singleton credentials credential ih =>
    rw [ofList_concat, get?_insert, ih, List.filter_append]
    by_cases hk : credential.kind = kind <;> simp [hk]

/-- The first credential of each kind gives the place. -/
theorem kinds_ofList (credentials : List Credential) :
    (ofList credentials).kinds = firstPerKey id (credentials.map Credential.kind) := by
  induction credentials using List.reverseRecOn with
  | nil => rfl
  | append_singleton credentials credential ih =>
    rw [ofList_concat, kinds_insert, ih, List.map_append, firstPerKey_append, List.map_id,
      List.map_singleton]
    by_cases hk : credential.kind ∈ credentials.map Credential.kind
    · rw [if_pos (mem_firstPerKey_id.mpr hk), List.filter_cons_of_neg (by simpa using hk),
        List.filter_nil, firstPerKey, List.append_nil]
    · rw [if_neg (mt mem_firstPerKey_id.mp hk), List.filter_cons_of_pos (by simpa using hk),
        List.filter_nil]
      rfl

theorem union_assoc (set other third : CredentialSet) :
    (set.union other).union third = set.union (other.union third) := by
  have hlater : third.entries.filter (fun credential =>
        !(set.union other).contains credential.kind) =
      (third.entries.filter fun credential => !other.contains credential.kind).filter
        fun credential => !set.contains credential.kind := by
    rw [List.filter_filter]
    apply List.filter_congr
    intro credential _
    rw [contains_union, Bool.not_or]
  rw [union, hlater]
  simp only [union, List.filter_append, List.append_assoc]

theorem union_self (set : CredentialSet) : set.union set = set :=
  union_eq_self fun _ hm => contains_iff.mpr (List.mem_map_of_mem hm)

/-- No other entry has the kind, so the erasure takes this one alone. -/
theorem Distinct.erase_of_listed (h : set.Distinct) (hk : kind ∈ set.kinds) :
    ∃ before listed after, set.entries = before ++ listed :: after ∧ listed.kind = kind ∧
      (set.erase kind).entries = before ++ after := by
  obtain ⟨before, listed, after, hsplit, rfl, -⟩ := exists_listed hk
  refine ⟨before, listed, after, hsplit, rfl, ?_⟩
  rw [Distinct, kinds, hsplit] at h
  rw [CredentialSet.erase, hsplit]
  exact filter_ne_key_of_nodup h

theorem Distinct.kindsOnce (h : set.Distinct) : set.KindsOnce where
  distinct := h
  insert_new _ hn := putEntry_of_new hn
  insert_listed _ hk := insert_of_listed hk
  get?_insert := set.get?_insert
  erase_listed _ hk := h.erase_of_listed hk
  erase_absent _ hn := by
    apply erase_of_contains_eq_false
    rwa [← Bool.not_eq_true, contains_iff]
  get?_erase hidden kind := by
    split
    · next hk => rw [hk, get?_erase_self]
    · next hk => exact set.get?_erase_of_ne hk

end CredentialSet

open CredentialSet (ofList)

/-- However a set has been made, it is an ordered map that has each kind once. A union lists the new
kinds of the second set after the first, as they stand there, and so it is associative and idempotent
entry by entry; sources that hold sets are joined in the same way. Of a list, the first credential of
each kind gives the place and the last one the value. -/
theorem kindsOnce_of_reachable {set : CredentialSet} (h : set.Reachable) :
    set.KindsOnce ∧
    (∀ other : CredentialSet,
      (set.union other).entries =
        set.entries ++ other.entries.filter (fun credential => credential.kind ∉ set.kinds) ∧
      (∀ kind, (set.union other).get? kind = (set.get? kind).or (other.get? kind)) ∧
      (∀ third, (set.union other).union third = set.union (other.union third)) ∧
      (CredentialSource.held set).orElse (.held other) = .held (set.union other)) ∧
    set.union set = set ∧
    ∀ credentials : List Credential,
      (ofList credentials).kinds = firstPerKey id (credentials.map Credential.kind) ∧
      ∀ kind, (ofList credentials).get? kind =
        (credentials.filter fun credential => credential.kind = kind).getLast? := by
  refine ⟨h.distinct.kindsOnce, ?_, set.union_self, ?_⟩
  · intro other
    exact ⟨set.entries_union other, set.get?_union other, set.union_assoc other,
      CredentialSource.held_orElse_held set other⟩
  · intro credentials
    exact ⟨CredentialSet.kinds_ofList credentials, CredentialSet.get?_ofList credentials⟩

/-- A password is given twice, and once more by the other set. -/
theorem kindsOnce_of_passwords :
    let password (text : String) : Credential := .password ⟨text⟩
    let token : Credential := .bearerToken ⟨"token"⟩
    let ticket : Credential := .gssKerberos ⟨[1, 2]⟩
    let given := [password "first", token, password "second"]
    let ours := ofList given
    let theirs := ofList [ticket, password "theirs"]
    let both := ours.union theirs
    ours.Reachable ∧ both.Reachable ∧ ours.get? .password = some (password "second") ∧
      both.entries = [password "second", token, ticket] ∧ both.kinds.Nodup ∧
      (both.erase .bearerToken).get? .password = some (password "second") ∧
      both.union both = both := by
  intro password token ticket given ours theirs both
  have hours : ours.Reachable := .ofList given
  have hboth : both.Reachable := hours.union (.ofList [ticket, password "theirs"])
  obtain ⟨-, hunion, -, hlist⟩ := kindsOnce_of_reachable hours
  obtain ⟨honce, -, hself, -⟩ := kindsOnce_of_reachable hboth
  have hpassword : ours.get? .password = some (password "second") := (hlist given).2 .password
  have hkept : both.get? .password = some (password "second") := by
    rw [(hunion theirs).2.1, hpassword, Option.some_or]
  refine ⟨hours, hboth, hpassword, (hunion theirs).1.trans rfl, honce.distinct, ?_, hself⟩
  rw [honce.get?_erase, if_neg (by decide), hkept]

end ClientAuth
