import JobWatch.Proofs.Json.Nested

/-!
Reading by value: what is read of a document is read of its value, too.

The value of a document keeps neither the order of its members nor a member that a later one of the
same name replaces, so neither matters to what is read. The parts of a record are found in the value
by their names.
-/

namespace JobWatch.Json

/-! ### Members of a value -/

/-- The member of an object under a name. -/
def Value.member? : Value → String → Option Value
  | .obj members, name => members.lookup name
  | _, _ => none

/-- Whether a member is there and true. -/
def Value.isSet (v : Value) (name : String) : Bool :=
  match v.member? name with
  | some (.bool b) => b
  | _ => false

/-- What is found by going from member to member. -/
def Value.at? (v : Value) (path : List String) : Option Value := path.foldlM Value.member? v

lemma Value.at?_cons (v : Value) (name : String) (path : List String) :
    v.at? (name :: path) = (v.member? name).bind (·.at? path) := rfl

lemma Value.at?_append (v : Value) (path more : List String) :
    v.at? (path ++ more) = (v.at? path).bind (·.at? more) := by
  rw [at?, List.foldlM_append]
  rfl

lemma Value.at?_singleton (v : Value) (name : String) : v.at? [name] = v.member? name := by
  rw [at?_cons]
  rcases v.member? name with _ | u <;> rfl

lemma Value.tree_eq_null {v : Value} : v.tree = .null ↔ v = .null := by
  cases v <;> simp [Value.tree]

lemma Value.tree_eq_bool {v : Value} {b : Bool} : v.tree = .bool b ↔ v = .bool b := by
  cases v <;> simp [Value.tree]

lemma Value.tree_eq_obj {v : Value} {ms : List (String × Tree)} :
    v.tree = .obj ms none ↔ ∃ es, v = .obj es ∧ memberTrees es = ms := by
  cases v <;> simp [Value.tree]

/-- The members of an object that is the value of a document are in order and do not repeat. -/
lemma Value.IsCanonical.exists_keyed {es : List (String × Value)}
    (h : (Value.obj es).IsCanonical) :
    ∃ m : Keyed Value, es = m.entries ∧ ∀ e ∈ es, e.2.IsCanonical := by
  rw [IsCanonical, Value.tree, toValue_obj] at h
  obtain ⟨-, vs, hvs, hes⟩ := h
  rw [Value.obj.injEq] at hes
  refine ⟨_, hes, fun e he => ?_⟩
  rw [hes] at he
  obtain ⟨t, -, ht⟩ := hvs.exists_tree (Keyed.mem_of_get?_ofList (Keyed.mem_entries.1 he))
  exact isCanonical_of_toValue ht

lemma Value.IsCanonical.member? {v u : Value} {name : String} (h : v.IsCanonical)
    (hu : v.member? name = some u) : u.IsCanonical := by
  cases v with
  | obj es =>
    obtain ⟨m, -, hes⟩ := h.exists_keyed
    exact hes (name, u) (Keyed.mem_of_lookup hu)
  | _ => simp [Value.member?] at hu

lemma mem_memberTrees {es : List (String × Value)} {name : String} {t : Tree} :
    (name, t) ∈ memberTrees es ↔ ∃ u, (name, u) ∈ es ∧ u.tree = t := by
  rw [memberTrees_eq_map, List.mem_map]
  constructor
  · rintro ⟨⟨k, u⟩, hmem, heq⟩
    rw [Prod.mk.injEq] at heq
    obtain ⟨rfl, rfl⟩ := heq
    exact ⟨u, hmem, rfl⟩
  · rintro ⟨u, hmem, rfl⟩
    exact ⟨(name, u), hmem, rfl⟩

/-! ### Formats -/

/-- What is read of a document is read of its value. -/
def Format.ByValue {α : Type} (f : Format α) : Prop :=
  ∀ {t x v}, f.decode t = .ok x → t.toValue = .ok v → f.decode v.tree = .ok x

lemma Format.string_byValue : string.ByValue := by
  intro t s v h hv
  obtain rfl := decodeString_eq_ok.1 h
  cases hv
  rfl

lemma Format.bool_byValue : bool.ByValue := by
  intro t b v h hv
  obtain rfl := decodeBool_eq_ok.1 h
  cases hv
  rfl

lemma Format.nat_byValue (max : Nat) : (nat max).ByValue := by
  intro t n v h hv
  obtain ⟨rfl, -⟩ := decodeNat_eq_ok.1 h
  cases hv
  exact h

lemma Format.strings_byValue : strings.ByValue := by
  intro t xs v h hv
  rw [strings_decode.1 h, toValue_strings, Except.ok.injEq] at hv
  rw [← hv, Value.tree, itemTrees_str]
  exact strings_decode.2 rfl

/-! ### Records -/

namespace Schema

variable {σ : Type} {c : Schema σ}

def MembersByValue (c : Schema σ) : Prop := ∀ m ∈ c.members, m.format.ByValue

/-- A record holds the members of the value of its document. -/
lemma Holds.byValue {ms : List (String × Tree)} {s : σ} (h : c.Holds ms s)
    (hf : c.MembersByValue) {vs : List (String × Value)} (hvs : HaveMembers ms vs) :
    c.Holds (memberTrees (Keyed.ofList vs).entries) s := by
  have hcanonical : ∀ e ∈ (Keyed.ofList vs).entries, e.2.IsCanonical := by
    intro e he
    obtain ⟨t, -, ht⟩ := hvs.exists_tree (Keyed.mem_of_get?_ofList (Keyed.mem_entries.1 he))
    exact isCanonical_of_toValue ht
  constructor
  case nodup =>
    rw [ownKeys, keys_memberTrees]
    exact (Keyed.nodup_keys _).filter _
  case kept =>
    intro m hm t ht
    obtain ⟨u, hu, rfl⟩ := mem_memberTrees.1 ht
    obtain ⟨t, hmem, htu⟩ := hvs.exists_tree (Keyed.mem_of_get?_ofList (Keyed.mem_entries.1 hu))
    exact hf m hm (h.kept m hm t hmem) htu
  case missing =>
    intro m hm hkey
    rw [keys_memberTrees, ← Keyed.lookup_eq_none] at hkey
    refine h.missing m hm ?_
    rw [hvs.keys]
    exact Keyed.get?_ofList_eq_none.1 hkey
  case carried =>
    refine ⟨_, (haveMembers_memberTrees hcanonical).filter fun k => decide (k ∉ c.names), ?_⟩
    rw [h.extra_eq hvs]
    apply Keyed.ext_get?
    intro k
    by_cases hk : k ∈ c.names
    · exact (get?_others_own hk vs).trans (get?_others_own hk _).symm
    · have hsame := get?_others hk (Keyed.ofList vs).entries
      rw [Keyed.ofList_entries] at hsame
      exact (get?_others hk vs).trans hsame.symm

/-- **A record is read by value if its members are.** -/
theorem byValue (hc : c.Lawful) (hf : c.MembersByValue) : c.format.ByValue := by
  intro t s v h hv
  obtain ⟨ms, rfl, hholds⟩ := (decode_eq_ok hc).1 h
  obtain ⟨-, vs, hvs, rfl⟩ := toValue_obj.1 hv
  exact (decode_eq_ok hc).2 ⟨_, rfl, hholds.byValue hf hvs⟩

lemma optional_byValue (hc : c.Lawful) (hf : c.MembersByValue) : c.optional.ByValue := by
  intro t x v h hv
  rcases decodeOption_eq_ok.1 h with ⟨rfl, rfl⟩ | ⟨-, s, hs, rfl⟩
  · cases hv
    rfl
  · have hread := byValue hc hf hs hv
    refine decodeOption_eq_ok.2 (.inr ⟨?_, s, hread, rfl⟩)
    intro hnull
    obtain ⟨ms, hobj, -⟩ := (decode_eq_ok hc).1 hread
    simp [hnull] at hobj

lemma keyed_byValue (hc : c.Lawful) (hf : c.MembersByValue) : c.keyed.ByValue := by
  intro t x v h hv
  obtain ⟨ms, es, rfl, hes, rfl⟩ := decodeKeyed_eq_ok.1 h
  obtain ⟨-, vs, hvs, rfl⟩ := toValue_obj.1 hv
  refine decodeKeyed_eq_ok.2 ⟨_, _, rfl, ?_, (Keyed.ofList_entries _).symm⟩
  rw [memberTrees_eq_map, Keyed.Related, List.forall₂_map_left_iff]
  refine (Keyed.related_symm (Keyed.related_ofList (Keyed.related_join hes hvs))).imp ?_
  rintro ⟨k, u⟩ ⟨k', s⟩ ⟨rfl, t, ht, htu⟩
  exact ⟨rfl, byValue hc hf ht htu⟩

/-! ### The parts of a record -/

variable {v u : Value} {s : σ}

lemma get_present (hc : c.Lawful) (h : c.decode v.tree = .ok s) {m : Member σ}
    (hm : m ∈ c.members) (hu : v.member? m.name = some u) :
    m.format.decode u.tree = .ok (m.get s) := by
  obtain ⟨ms, htree, hholds⟩ := (decode_eq_ok hc).1 h
  obtain ⟨es, rfl, rfl⟩ := Value.tree_eq_obj.1 htree
  exact hholds.kept m hm _ (mem_memberTrees.2 ⟨u, Keyed.mem_of_lookup hu, rfl⟩)

lemma get_absent (hc : c.Lawful) (h : c.decode v.tree = .ok s) {m : Member σ}
    (hm : m ∈ c.members) (hu : v.member? m.name = none) : m.get s = m.format.default := by
  obtain ⟨ms, htree, hholds⟩ := (decode_eq_ok hc).1 h
  obtain ⟨es, rfl, rfl⟩ := Value.tree_eq_obj.1 htree
  refine hholds.missing m hm ?_
  rw [keys_memberTrees]
  exact Keyed.lookup_eq_none.1 hu

/-- Of records under any names, each is read of the member under its name. -/
lemma get?_keyed {x : Keyed σ} (hv : v.IsCanonical) (h : decodeKeyed c.decode v.tree = .ok x)
    (name : String) :
    (v.member? name = none → x.get? name = none) ∧
      ∀ u, v.member? name = some u → ∃ s, c.decode u.tree = .ok s ∧ x.get? name = some s := by
  obtain ⟨ms, ss, htree, hss, rfl⟩ := decodeKeyed_eq_ok.1 h
  obtain ⟨es, rfl, rfl⟩ := Value.tree_eq_obj.1 htree
  obtain ⟨m, rfl, -⟩ := hv.exists_keyed
  have hkeys : ss.map Prod.fst = m.entries.map Prod.fst := by
    rw [← Keyed.related_keys hss, keys_memberTrees]
  constructor
  · intro hnone
    rw [Keyed.get?_ofList_eq_none, hkeys]
    exact Keyed.lookup_eq_none.1 hnone
  · intro u hu
    have hmem : (name, u.tree) ∈ memberTrees m.entries :=
      mem_memberTrees.2 ⟨u, Keyed.mem_of_lookup hu, rfl⟩
    obtain ⟨s, hs, hread⟩ := Keyed.exists_related hss hmem
    refine ⟨s, hread, Keyed.get?_ofList_of_mem ?_ hs⟩
    rw [hkeys]
    exact m.nodup_keys

end Schema

end JobWatch.Json
