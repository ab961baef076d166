import JobWatch.Proofs.Json.Record

/-!
Records inside records: a record that may be null, and records under any names.
-/

namespace JobWatch.Json.Schema

variable {σ : Type} {c : Schema σ} {t : Tree}

/-! ### A record that may be null -/

/-- Null is read as no record, and no record is left out. -/
def optional (c : Schema σ) : Format (Option σ) where
  decode := decodeOption c.decode
  default := none
  shown x := x.map c.value
  absent := none
  present
    | .null => none
    | v => some (normalize c.rules v)
  depth := c.depth

lemma decodeOption_eq_ok {x : Option σ} :
    decodeOption c.decode t = .ok x ↔
      t = .null ∧ x = none ∨ t ≠ .null ∧ ∃ s, c.decode t = .ok s ∧ x = some s := by
  unfold decodeOption
  split
  · simp [eq_comm]
  · next hne =>
    have hnull : t ≠ .null := hne
    rcases c.decode t with f | s
    · simp [Except.map, hnull]
    · simp only [Except.map, Except.ok.injEq, exists_eq_left']
      constructor
      · rintro rfl
        exact .inr ⟨hne, rfl⟩
      · rintro (⟨h, -⟩ | ⟨-, rfl⟩)
        · exact absurd h hne
        · rfl

lemma present_record (hc : c.Lawful) {s : σ} {v : Value} (h : c.decode t = .ok s)
    (hv : t.toValue = .ok v) : c.optional.present v = some (normalize c.rules v) := by
  obtain ⟨ms, rfl, -⟩ := (decode_eq_ok hc).1 h
  obtain ⟨-, vs, -, rfl⟩ := toValue_obj.1 hv
  rfl

lemma optional_lawful (hc : c.Lawful) (hf : c.MembersLawful) : c.optional.Lawful := by
  have hlawful := format_lawful hc hf
  constructor
  case hasValue =>
    intro t x h
    rcases decodeOption_eq_ok.1 h with ⟨rfl, -⟩ | ⟨-, s, hs, -⟩
    · exact ⟨.null, rfl⟩
    · exact hlawful.hasValue hs
  case reread =>
    intro t x u h hu
    rcases decodeOption_eq_ok.1 h with ⟨-, rfl⟩ | ⟨-, s, hs, rfl⟩
    · simp [optional] at hu
    · obtain rfl : c.value s = u := Option.some.inj hu
      refine decodeOption_eq_ok.2 (.inr ⟨?_, s, hlawful.reread hs rfl, rfl⟩)
      simp [value, Value.tree]
  case omitted =>
    intro t x _ hu
    exact Option.map_eq_none_iff.1 hu
  case present =>
    intro t x v h hv
    rcases decodeOption_eq_ok.1 h with ⟨rfl, rfl⟩ | ⟨-, s, hs, rfl⟩
    · cases hv
      exact shows_none
    · rw [present_record hc hs hv]
      exact hlawful.present hs hv
  case fits =>
    intro t x u n h hu hn ht
    rcases decodeOption_eq_ok.1 h with ⟨-, rfl⟩ | ⟨-, s, hs, rfl⟩
    · simp [optional] at hu
    · exact hlawful.fits hs hu hn ht
  case floatFree =>
    intro t x u v h hu hv hfree
    rcases decodeOption_eq_ok.1 h with ⟨-, rfl⟩ | ⟨-, s, hs, rfl⟩
    · simp [optional] at hu
    · exact hlawful.floatFree hs hu hv hfree
  case default_readable => exact ⟨.null, rfl⟩
  case default_absent => exact shows_none
  case default_fits =>
    intro u n hu _
    simp [optional] at hu
  case default_floatFree =>
    intro u hu
    simp [optional] at hu

/-! ### Records under any names -/

/-- Of records under one name the last one is read. -/
def keyed (c : Schema σ) : Format (Keyed σ) where
  decode := decodeKeyed c.decode
  default := .empty
  shown x := some (.obj (x.entries.map fun e => (e.1, c.value e.2)))
  absent := some (.obj [])
  present v := some (mapMembers (normalize c.rules) v)
  depth := c.depth + 1

lemma decodeKeyed_eq_ok {x : Keyed σ} :
    decodeKeyed c.decode t = .ok x ↔
      ∃ ms es, t = .obj ms none ∧ Keyed.Related (fun t s => c.decode t = .ok s) ms es ∧
        x = Keyed.ofList es := by
  have hmember : ∀ (e : String × Tree) (w : String × σ),
      (c.decode e.2).map (e.1, ·) = .ok w ↔ e.1 = w.1 ∧ c.decode e.2 = .ok w.2 := by
    rintro ⟨k, t⟩ ⟨k', s⟩
    rcases c.decode t with f | s'
    · simp [Except.map]
    · simp [Except.map]
  unfold decodeKeyed
  split
  · next ms cut =>
    simp only [bind_eq_ok, mapM_eq_ok, hmember, unlessCut_eq_ok, Tree.obj.injEq]
    constructor
    · rintro ⟨es, hes, rfl, rfl⟩
      exact ⟨ms, es, ⟨rfl, rfl⟩, hes, rfl⟩
    · rintro ⟨_, es, ⟨rfl, rfl⟩, hes, rfl⟩
      exact ⟨es, hes, rfl, rfl⟩
  · simp
  · next hne _ =>
    simp only [reduceCtorEq, false_iff]
    rintro ⟨ms, es, rfl, -⟩
    exact hne ms none rfl

lemma keyed_shown (x : Keyed σ) {u : Value} (hu : c.keyed.shown x = some u) :
    u = .obj (x.mapValues c.value).entries :=
  (Option.some.inj hu).symm

section

variable {ms : List (String × Tree)} {es : List (String × σ)} {vs : List (String × Value)}

/-- Every record that is kept was read from a member under its name. -/
lemma exists_read (hes : Keyed.Related (fun t s => c.decode t = .ok s) ms es) {k : String} {s : σ}
    (hs : (k, s) ∈ (Keyed.ofList es).entries) : ∃ t, (k, t) ∈ ms ∧ c.decode t = .ok s := by
  have hfound := Keyed.mem_of_get?_ofList (Keyed.mem_entries.1 hs)
  obtain ⟨t, ht, hread⟩ := Keyed.exists_related_left hes hfound
  exact ⟨t, ht, hread⟩

/-- Each record that is kept is written as the normal form of what it was read from. -/
lemma haveMembers_mapValues (hc : c.Lawful) (hf : c.MembersLawful)
    (hes : Keyed.Related (fun t s => c.decode t = .ok s) ms es) (hvs : HaveMembers ms vs) :
    HaveMembers (memberTrees ((Keyed.ofList es).mapValues c.value).entries)
      ((Keyed.ofList vs).mapValues (normalize c.rules)).entries := by
  have hjoin := Keyed.related_ofList (Keyed.related_join hes hvs)
  rw [memberTrees_eq_map, Keyed.mapValues, List.map_map]
  refine List.forall₂_map_left_iff.2 (List.forall₂_map_right_iff.2 (hjoin.imp ?_))
  rintro ⟨k, s⟩ ⟨k', w⟩ ⟨rfl, t, ht, hw⟩
  exact ⟨rfl, shows_some.1 ((format_lawful hc hf).present ht hw)⟩

end

lemma keyed_lawful (hc : c.Lawful) (hf : c.MembersLawful) : c.keyed.Lawful := by
  have hlawful := format_lawful hc hf
  constructor
  case hasValue =>
    intro t x h
    obtain ⟨ms, es, rfl, hes, -⟩ := decodeKeyed_eq_ok.1 h
    obtain ⟨vs, hvs⟩ := haveMembers_of_forall fun e he => by
      obtain ⟨s, -, hs⟩ := Keyed.exists_related hes (k := e.1) (v := e.2) he
      exact hlawful.hasValue hs
    exact ⟨_, toValue_obj.2 ⟨rfl, vs, hvs, rfl⟩⟩
  case reread =>
    intro t x u h hu
    obtain ⟨ms, es, rfl, hes, rfl⟩ := decodeKeyed_eq_ok.1 h
    rw [keyed_shown _ hu]
    refine decodeKeyed_eq_ok.2 ⟨_, _, rfl, ?_, (Keyed.ofList_entries _).symm⟩
    rw [memberTrees_eq_map, Keyed.mapValues, List.map_map, Keyed.Related, List.forall₂_map_left_iff,
      List.forall₂_same]
    rintro ⟨k, s⟩ hs
    obtain ⟨t, -, ht⟩ := exists_read hes hs
    exact ⟨rfl, hlawful.reread ht rfl⟩
  case omitted =>
    intro t x _ hu
    simp [keyed] at hu
  case present =>
    intro t x v h hv
    obtain ⟨ms, es, rfl, hes, rfl⟩ := decodeKeyed_eq_ok.1 h
    obtain ⟨-, vs, hvs, rfl⟩ := toValue_obj.1 hv
    refine shows_some.2 (toValue_obj.2 ⟨rfl, _, haveMembers_mapValues hc hf hes hvs, ?_⟩)
    rw [Keyed.ofList_entries]
    rfl
  case fits =>
    intro t x u n h hu hn ht
    obtain ⟨ms, es, rfl, hes, rfl⟩ := decodeKeyed_eq_ok.1 h
    rw [keyed_shown _ hu]
    cases ht with
    | obj hms =>
      refine .obj fun e he => ?_
      obtain ⟨⟨k, s⟩, hs, rfl⟩ := List.mem_map.1 he
      obtain ⟨t, ht, hread⟩ := exists_read hes hs
      exact hlawful.fits hread rfl (Nat.le_of_succ_le_succ hn) (hms _ ht)
  case floatFree =>
    intro t x u v h hu hv hfree
    obtain ⟨ms, es, rfl, hes, rfl⟩ := decodeKeyed_eq_ok.1 h
    obtain ⟨-, vs, hvs, rfl⟩ := toValue_obj.1 hv
    have hjoin := Keyed.related_ofList (Keyed.related_join hes hvs)
    have hmembers := membersFloatFree_iff.1 (by simpa only [Value.isFloatFree] using hfree)
    rw [keyed_shown _ hu, Value.isFloatFree, membersFloatFree_iff]
    intro e he
    obtain ⟨⟨k, s⟩, hs, rfl⟩ := List.mem_map.1 he
    obtain ⟨w, hw, t, ht, htv⟩ := Keyed.exists_related hjoin hs
    exact hlawful.floatFree ht rfl htv (hmembers _ hw)
  case default_readable =>
    exact ⟨.obj [] none, decodeKeyed_eq_ok.2 ⟨[], [], rfl, .nil, rfl⟩⟩
  case default_absent => exact shows_some.2 rfl
  case default_fits =>
    intro u n hu hn
    obtain ⟨n, rfl⟩ := Nat.exists_eq_add_of_le' (Nat.le_trans (Nat.le_add_left 1 _) hn)
    rw [keyed_shown _ hu]
    exact .obj (by simp [Keyed.mapValues, keyed, Keyed.empty])
  case default_floatFree =>
    intro u hu
    rw [keyed_shown _ hu]
    rfl

end JobWatch.Json.Schema
