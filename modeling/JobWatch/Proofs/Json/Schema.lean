import JobWatch.Proofs.Json.Format
import JobWatch.Proofs.Json.Normal

/-!
Records by their members: what a record that was read holds of the document.

A schema lists the members of a record with their formats, and says where the record keeps each of
them and where it keeps the others. The members a document has are read into a record exactly if
none of its own repeats, each of its own is read by its format, and all the others have values.
-/

namespace JobWatch.Json

/-- A member of a record, and where the record keeps it. -/
structure Member (σ : Type) where
  name : String
  Kind : Type
  format : Format Kind
  set : Kind → σ → σ
  get : σ → Kind

def Member.field {σ : Type} (m : Member σ) : Field σ := .of m.name m.format.decode m.set

def Member.rule {σ : Type} (m : Member σ) : Rule := ⟨m.name, m.format.absent, m.format.present⟩

/-- The values of members, one after the other, and the other members of an object. -/
def Slots {σ : Type} : List (Member σ) → Type
  | [] => Keyed Value
  | m :: ms => m.Kind × Slots ms

/-- The slots of an empty object. -/
def Slots.default {σ : Type} : (ms : List (Member σ)) → Slots ms
  | [] => (Keyed.empty : Keyed Value)
  | m :: ms => (m.format.default, Slots.default ms)

/-- What makes a record of slots: the constructor of a structure, say. -/
def Maker {σ : Type} : List (Member σ) → Type
  | [] => Keyed Value → σ
  | m :: ms => m.Kind → Maker ms

def Maker.record {σ : Type} : {ms : List (Member σ)} → Maker ms → Slots ms → σ
  | [], make, extra => make extra
  | _ :: _, make, slots => Maker.record (make slots.1) slots.2

/-- What there is of each member, under its name. -/
def listed {σ α : Type} (members : List (Member σ)) (f : Member σ → Option α) :
    List (String × α) :=
  members.filterMap fun m => (f m).map (m.name, ·)

structure Schema (σ : Type) where
  start : σ
  members : List (Member σ)
  carry : String → Value → σ → σ
  extra : σ → Keyed Value

namespace Schema

variable {σ : Type}

def layout (c : Schema σ) : Layout σ := ⟨c.members.map Member.field, c.carry⟩

def decode (c : Schema σ) : Tree → Except Fault σ := c.layout.decode c.start

/-- The members of its own that are written. -/
def shown (c : Schema σ) (s : σ) : List (String × Value) :=
  listed c.members fun m => m.format.shown (m.get s)

def value (c : Schema σ) (s : σ) : Value := .obj (c.shown s ++ (c.extra s).entries)

def rules (c : Schema σ) : List Rule := c.members.map Member.rule

def names (c : Schema σ) : List String := c.members.map (·.name)

/-- The record keeps every member in a place of its own. -/
structure Lawful (c : Schema σ) : Prop where
  nodup : c.names.Nodup
  get_start : ∀ m ∈ c.members, m.get c.start = m.format.default
  extra_start : c.extra c.start = .empty
  get_set : ∀ m ∈ c.members, ∀ x s, m.get (m.set x s) = x
  get_set_ne : ∀ m ∈ c.members, ∀ m' ∈ c.members, m.name ≠ m'.name → ∀ x s,
    m.get (m'.set x s) = m.get s
  extra_set : ∀ m ∈ c.members, ∀ x s, c.extra (m.set x s) = c.extra s
  get_carry : ∀ m ∈ c.members, ∀ k v s, m.get (c.carry k v s) = m.get s
  extra_carry : ∀ k v s, c.extra (c.carry k v s) = (c.extra s).insert k v
  ext : ∀ s s', (∀ m ∈ c.members, m.get s = m.get s') → c.extra s = c.extra s' → s = s'

/-! ### Records made of slots -/

section

/-- A record made of slots keeps what is in each of them in a place of its own. -/
def Places (c : Schema σ) : (ms : List (Member σ)) → Maker ms → Prop
  | [], make => ∀ x, c.extra (make x) = x ∧ ∀ k v, c.carry k v (make x) = make (x.insert k v)
  | m :: ms, make => (∀ x slots, m.get ((make x : Maker ms).record slots) = x) ∧
      (∀ x y slots, m.set y ((make x : Maker ms).record slots) = (make y : Maker ms).record slots) ∧
      ∀ x, c.Places ms (make x)

variable {c : Schema σ} {ms : List (Member σ)} {make : Maker ms} {m : Member σ}

/-- What a record keeps of some slots does not depend on those before. -/
lemma Places.same (h : c.Places ms make) {make' : Maker ms} (h' : c.Places ms make')
    (slots : Slots ms) :
    (∀ m ∈ ms, m.get (make.record slots) = m.get (make'.record slots)) ∧
      c.extra (make.record slots) = c.extra (make'.record slots) := by
  induction ms with
  | nil => exact ⟨nofun, ((h slots).1).trans (h' slots).1.symm⟩
  | cons m₀ ms ih =>
    obtain ⟨x, slots⟩ := slots
    obtain ⟨hget, -, hrest⟩ := h
    obtain ⟨hget', -, hrest'⟩ := h'
    obtain ⟨hsame, hextra⟩ := ih (hrest x) (hrest' x) slots
    refine ⟨fun m hm => ?_, hextra⟩
    rcases List.mem_cons.1 hm with rfl | hm
    · exact (hget x slots).trans (hget' x slots).symm
    · exact hsame m hm

/-- Setting a member changes its slot and no other. -/
lemma Places.set (h : c.Places ms make) (hm : m ∈ ms) (x : m.Kind) (slots : Slots ms) :
    ∃ slots', m.set x (make.record slots) = make.record slots' ∧ m.get (make.record slots') = x ∧
      (∀ m' ∈ ms, m'.name ≠ m.name → m'.get (make.record slots') = m'.get (make.record slots)) ∧
      c.extra (make.record slots') = c.extra (make.record slots) := by
  induction ms with
  | nil => cases hm
  | cons m₀ ms ih =>
    obtain ⟨y, slots⟩ := slots
    obtain ⟨hget, hset, hrest⟩ := h
    rcases List.mem_cons.1 hm with rfl | hm
    · obtain ⟨hsame, hextra⟩ := (hrest x).same (hrest y) slots
      refine ⟨(x, slots), hset y x slots, hget x slots, fun m' hm' hne => ?_, hextra⟩
      rcases List.mem_cons.1 hm' with rfl | hm'
      · exact absurd rfl hne
      · exact hsame m' hm'
    · obtain ⟨slots', hslots', hx, hothers, hextra⟩ := ih (hrest y) hm slots
      refine ⟨(y, slots'), hslots', hx, fun m' hm' hne => ?_, hextra⟩
      rcases List.mem_cons.1 hm' with rfl | hm'
      · exact (hget y slots').trans (hget y slots).symm
      · exact hothers m' hm' hne

/-- What is carried along goes into the last slot. -/
lemma Places.carry (h : c.Places ms make) (k : String) (v : Value) (slots : Slots ms) :
    ∃ slots', c.carry k v (make.record slots) = make.record slots' ∧
      (∀ m ∈ ms, m.get (make.record slots') = m.get (make.record slots)) ∧
      c.extra (make.record slots') = (c.extra (make.record slots)).insert k v := by
  induction ms with
  | nil =>
    obtain ⟨hextra, hcarry⟩ := h slots
    exact ⟨_, hcarry k v, nofun, (h _).1.trans (congrArg (·.insert k v) hextra.symm)⟩
  | cons m₀ ms ih =>
    obtain ⟨y, slots⟩ := slots
    obtain ⟨hget, -, hrest⟩ := h
    obtain ⟨slots', hslots', hkept, hextra⟩ := ih (hrest y) slots
    refine ⟨(y, slots'), hslots', fun m hm => ?_, hextra⟩
    rcases List.mem_cons.1 hm with rfl | hm
    · exact (hget y slots').trans (hget y slots).symm
    · exact hkept m hm

lemma Places.ext (h : c.Places ms make) {slots slots' : Slots ms}
    (hget : ∀ m ∈ ms, m.get (make.record slots) = m.get (make.record slots'))
    (hextra : c.extra (make.record slots) = c.extra (make.record slots')) : slots = slots' := by
  induction ms with
  | nil => exact (h slots).1.symm.trans (hextra.trans (h slots').1)
  | cons m ms ih =>
    obtain ⟨x, slots⟩ := slots
    obtain ⟨y, slots'⟩ := slots'
    obtain rfl : x = y :=
      (h.1 x slots).symm.trans ((hget m List.mem_cons_self).trans (h.1 y slots'))
    have hrest := ih (h.2.2 x) (fun m hm => hget m (List.mem_cons_of_mem _ hm)) hextra
    exact congrArg (Prod.mk x) hrest

lemma Places.default (h : c.Places ms make) :
    (∀ m ∈ ms, m.get (make.record (.default ms)) = m.format.default) ∧
      c.extra (make.record (.default ms)) = .empty := by
  induction ms with
  | nil => exact ⟨nofun, (h _).1⟩
  | cons m₀ ms ih =>
    obtain ⟨hmembers, hextra⟩ := ih (h.2.2 _)
    exact ⟨List.forall_mem_cons.2 ⟨h.1 _ _, hmembers⟩, hextra⟩

/-- **A record that is made of slots for its members is lawful.** -/
theorem lawful_of_places (hnodup : c.names.Nodup) (make : Maker c.members)
    (hmake : ∀ s, ∃ slots, make.record slots = s)
    (hstart : make.record (.default c.members) = c.start)
    (hplaces : c.Places c.members make) : c.Lawful where
  nodup := hnodup
  get_start := hstart ▸ hplaces.default.1
  extra_start := hstart ▸ hplaces.default.2
  get_set m hm x s := by
    obtain ⟨slots, rfl⟩ := hmake s
    obtain ⟨slots', hset, hget, -⟩ := hplaces.set hm x slots
    rw [hset, hget]
  get_set_ne m hm m' hm' hne x s := by
    obtain ⟨slots, rfl⟩ := hmake s
    obtain ⟨slots', hset, -, hothers, -⟩ := hplaces.set hm' x slots
    rw [hset, hothers m hm hne]
  extra_set m hm x s := by
    obtain ⟨slots, rfl⟩ := hmake s
    obtain ⟨slots', hset, -, -, hextra⟩ := hplaces.set hm x slots
    rw [hset, hextra]
  get_carry m hm k v s := by
    obtain ⟨slots, rfl⟩ := hmake s
    obtain ⟨slots', hcarry, hkept, -⟩ := hplaces.carry k v slots
    rw [hcarry, hkept m hm]
  extra_carry k v s := by
    obtain ⟨slots, rfl⟩ := hmake s
    obtain ⟨slots', hcarry, -, hextra⟩ := hplaces.carry k v slots
    rw [hcarry, hextra]
  ext s s' hget hextra := by
    obtain ⟨slots, rfl⟩ := hmake s
    obtain ⟨slots', rfl⟩ := hmake s'
    rw [hplaces.ext hget hextra]

end

/-! ### Filling a record -/

/-- The keys of members of its own, and the other members. -/
def ownKeys (c : Schema σ) (ms : List (String × Tree)) : List String :=
  (ms.map Prod.fst).filter (· ∈ c.names)

def others {α : Type} (c : Schema σ) (ms : List (String × α)) : List (String × α) :=
  ms.filter (·.1 ∉ c.names)

/-- A member has the value that stands in the document, or is what it was. -/
def Kept (m : Member σ) (ms : List (String × Tree)) (s s' : σ) : Prop :=
  (∀ t, (m.name, t) ∈ ms → m.format.decode t = .ok (m.get s')) ∧
    (m.name ∉ ms.map Prod.fst → m.get s' = m.get s)

/-- All other members of the document are carried along. -/
def Carried (c : Schema σ) (ms : List (String × Tree)) (s s' : σ) : Prop :=
  ∃ vs, HaveMembers (c.others ms) vs ∧
    c.extra s' = vs.foldl (fun x e => x.insert e.1 e.2) (c.extra s)

variable {c : Schema σ}

lemma find?_field {l : List (Member σ)} (hnd : (l.map (·.name)).Nodup) {m : Member σ}
    (hm : m ∈ l) : (l.map Member.field).find? (·.name = m.name) = some m.field := by
  induction l with
  | nil => simp at hm
  | cons m' l ih =>
    rw [List.map_cons, List.nodup_cons] at hnd
    rw [List.map_cons]
    rcases List.mem_cons.1 hm with rfl | hm
    · exact List.find?_cons_of_pos (decide_eq_true rfl)
    · have hne : m'.field.name ≠ m.name := by
        intro heq
        exact hnd.1 (List.mem_map.2 ⟨m, hm, heq.symm⟩)
      rw [List.find?_cons_of_neg (by simpa using hne)]
      exact ih hnd.2 hm

lemma find?_own (hc : c.Lawful) {m : Member σ} (hm : m ∈ c.members) :
    c.layout.fields.find? (·.name = m.name) = some m.field :=
  find?_field hc.nodup hm

lemma find?_other {k : String} (hk : k ∉ c.names) :
    c.layout.fields.find? (·.name = k) = none := by
  rw [List.find?_eq_none]
  intro f hf
  obtain ⟨m, hm, rfl⟩ := List.mem_map.1 hf
  have hne : m.field.name ≠ k := by
    rintro rfl
    exact hk (List.mem_map.2 ⟨m, hm, rfl⟩)
  simpa using hne

lemma exists_member {k : String} (hk : k ∈ c.names) : ∃ m ∈ c.members, m.name = k :=
  List.mem_map.1 hk

lemma name_mem {m : Member σ} (hm : m ∈ c.members) : m.name ∈ c.names :=
  List.mem_map.2 ⟨m, hm, rfl⟩

variable {ms : List (String × Tree)} {seen : List String} {s s' : σ} {k : String} {t : Tree}

lemma field_read {m : Member σ} : m.field.read t s = .ok s' ↔
    ∃ x, m.format.decode t = .ok x ∧ m.set x s = s' := by
  simp only [Member.field, Field.of]
  rcases m.format.decode t with f | x <;> simp [Except.map]

/-- A member of its own is read once, by its format. -/
lemma fill_own (hc : c.Lawful) {m : Member σ} (hm : m ∈ c.members) :
    c.layout.fill seen ((m.name, t) :: ms) s = .ok s' ↔
      m.name ∉ seen ∧ ∃ x, m.format.decode t = .ok x ∧
        c.layout.fill (m.name :: seen) ms (m.set x s) = .ok s' := by
  rw [Layout.fill, find?_own hc hm]
  dsimp only
  split
  · next h => simp [h]
  · next h =>
    rw [bind_eq_ok]
    simp only [field_read]
    constructor
    · rintro ⟨_, ⟨x, hx, rfl⟩, hfill⟩
      exact ⟨h, x, hx, hfill⟩
    · rintro ⟨-, x, hx, hfill⟩
      exact ⟨_, ⟨x, hx, rfl⟩, hfill⟩

/-- Any other member needs a value, and is carried along. -/
lemma fill_other (hk : k ∉ c.names) :
    c.layout.fill seen ((k, t) :: ms) s = .ok s' ↔
      ∃ v, t.toValue = .ok v ∧ c.layout.fill seen ms (c.carry k v s) = .ok s' := by
  rw [Layout.fill, find?_other hk]
  exact bind_eq_ok

lemma ownKeys_own (hk : k ∈ c.names) : c.ownKeys ((k, t) :: ms) = k :: c.ownKeys ms := by
  simp [ownKeys, hk]

lemma ownKeys_other (hk : k ∉ c.names) : c.ownKeys ((k, t) :: ms) = c.ownKeys ms := by
  simp [ownKeys, hk]

lemma mem_ownKeys (hk : k ∈ c.names) : k ∈ c.ownKeys ms ↔ k ∈ ms.map Prod.fst := by
  simp [ownKeys, hk]

lemma kept_cons_ne {m : Member σ} (hne : m.name ≠ k) :
    Kept m ((k, t) :: ms) s s' ↔ Kept m ms s s' := by
  simp [Kept, hne]

lemma kept_cons_self {m : Member σ} (h : m.name ∉ ms.map Prod.fst) :
    Kept m ((m.name, t) :: ms) s s' ↔ m.format.decode t = .ok (m.get s') := by
  have hnone : ∀ t', (m.name, t') ∉ ms := fun t' hmem => h (List.mem_map.2 ⟨_, hmem, rfl⟩)
  simp [Kept, hnone]

lemma kept_absent {m : Member σ} (h : m.name ∉ ms.map Prod.fst) :
    Kept m ms s s' ↔ m.get s' = m.get s := by
  have hnone : ∀ t', (m.name, t') ∉ ms := fun t' hmem => h (List.mem_map.2 ⟨_, hmem, rfl⟩)
  simp only [Kept, hnone, h, false_imp_iff, implies_true, true_and, not_false_eq_true, true_imp_iff]

lemma carried_own {c : Schema σ} (hk : k ∈ c.names) :
    c.Carried ((k, t) :: ms) s s' ↔ c.Carried ms s s' := by
  simp [Carried, others, hk]

lemma carried_other (hc : c.Lawful) (hk : k ∉ c.names) :
    c.Carried ((k, t) :: ms) s s' ↔
      ∃ v, t.toValue = .ok v ∧ c.Carried ms (c.carry k v s) s' := by
  have hothers : c.others ((k, t) :: ms) = (k, t) :: c.others ms := by simp [others, hk]
  simp only [Carried, hothers, List.forall₂_cons_left_iff]
  constructor
  · rintro ⟨_, ⟨⟨k', v⟩, vs, ⟨rfl, hv⟩, hvs, rfl⟩, hextra⟩
    exact ⟨v, hv, vs, hvs, by rw [hextra, List.foldl_cons, hc.extra_carry]⟩
  · rintro ⟨v, hv, vs, hvs, hextra⟩
    exact ⟨(k, v) :: vs, ⟨(k, v), vs, ⟨rfl, hv⟩, hvs, rfl⟩,
      by rw [hextra, List.foldl_cons, hc.extra_carry]⟩

lemma carried_set (hc : c.Lawful) {m : Member σ} (hm : m ∈ c.members) (x : m.Kind) :
    c.Carried ms (m.set x s) s' ↔ c.Carried ms s s' := by
  rw [Carried, Carried, hc.extra_set m hm]

lemma eq_of_name_eq (hc : c.Lawful) {m m' : Member σ} (hm : m ∈ c.members) (hm' : m' ∈ c.members)
    (h : m'.name = m.name) : m' = m :=
  List.inj_on_of_nodup_map hc.nodup hm' hm h

/-- Setting a member accounts for its only occurrence. -/
lemma kept_set (hc : c.Lawful) {m : Member σ} (hm : m ∈ c.members) (h : m.name ∉ ms.map Prod.fst)
    {x : m.Kind} (hx : m.format.decode t = .ok x) :
    (∀ m' ∈ c.members, Kept m' ((m.name, t) :: ms) s s') ↔
      ∀ m' ∈ c.members, Kept m' ms (m.set x s) s' := by
  refine forall₂_congr fun m' hm' => ?_
  by_cases hname : m'.name = m.name
  · obtain rfl := eq_of_name_eq hc hm hm' hname
    rw [kept_cons_self h, kept_absent h, hx, hc.get_set m' hm', Except.ok.injEq, eq_comm]
  · rw [kept_cons_ne hname, Kept, Kept, hc.get_set_ne m' hm' m hm hname]

lemma kept_carry (hc : c.Lawful) (hk : k ∉ c.names) (v : Value) :
    (∀ m ∈ c.members, Kept m ((k, t) :: ms) s s') ↔
      ∀ m ∈ c.members, Kept m ms (c.carry k v s) s' := by
  refine forall₂_congr fun m hm => ?_
  have hne : m.name ≠ k := by
    rintro rfl
    exact hk (name_mem hm)
  rw [kept_cons_ne hne, Kept, Kept, hc.get_carry m hm]

/-- A record is filled exactly by members of which its own do not repeat, each of its own is read
and all the others have values. -/
lemma fill_eq_ok (hc : c.Lawful) :
    c.layout.fill seen ms s = .ok s' ↔
      ((c.ownKeys ms).Nodup ∧ ∀ k ∈ seen, k ∉ c.ownKeys ms) ∧
        (∀ m ∈ c.members, Kept m ms s s') ∧ c.Carried ms s s' := by
  induction ms generalizing seen s with
  | nil =>
    rw [Layout.fill, Except.ok.injEq]
    constructor
    · rintro rfl
      refine ⟨⟨by simp [ownKeys], by simp [ownKeys]⟩, fun m _ => ⟨by simp, by simp⟩, [], .nil, rfl⟩
    · rintro ⟨-, hkept, vs, hvs, hextra⟩
      have hnil : vs = [] := List.forall₂_nil_left_iff.1 hvs
      subst hnil
      exact hc.ext s s' (fun m hm => ((hkept m hm).2 (by simp)).symm) hextra.symm
  | cons e ms ih =>
    obtain ⟨k, t⟩ := e
    by_cases hk : k ∈ c.names
    · obtain ⟨m, hm, rfl⟩ := exists_member hk
      rw [fill_own hc hm, ownKeys_own hk, carried_own hk, List.nodup_cons]
      simp only [ih, carried_set hc hm, List.mem_cons, not_or]
      constructor
      · rintro ⟨hseen, x, hx, ⟨hnd, hdisjoint⟩, hkept, hcarried⟩
        have hnew : m.name ∉ c.ownKeys ms := hdisjoint m.name (.inl rfl)
        refine ⟨⟨⟨hnew, hnd⟩, fun k hk => ⟨?_, hdisjoint k (.inr hk)⟩⟩, ?_, hcarried⟩
        · rintro rfl
          exact hseen hk
        · exact (kept_set hc hm (fun h => hnew ((mem_ownKeys hk).2 h)) hx).2 hkept
      · rintro ⟨⟨⟨hnew, hnd⟩, hdisjoint⟩, hkept, hcarried⟩
        have hx := (hkept m hm).1 t (by simp)
        refine ⟨fun hseen => (hdisjoint m.name hseen).1 rfl, _, hx, ⟨hnd, ?_⟩, ?_, hcarried⟩
        · rintro k (rfl | hk)
          · exact hnew
          · exact (hdisjoint k hk).2
        · exact (kept_set hc hm (fun h => hnew ((mem_ownKeys hk).2 h)) hx).1 hkept
    · rw [fill_other hk, ownKeys_other hk, carried_other hc hk]
      simp only [ih]
      constructor
      · rintro ⟨v, hv, hdistinct, hkept, hcarried⟩
        exact ⟨hdistinct, (kept_carry hc hk v).2 hkept, v, hv, hcarried⟩
      · rintro ⟨hdistinct, hkept, v, hv, hcarried⟩
        exact ⟨v, hv, hdistinct, (kept_carry hc hk v).1 hkept, hcarried⟩

/-- What a record holds of the members of a document. -/
structure Holds (c : Schema σ) (ms : List (String × Tree)) (s : σ) : Prop where
  nodup : (c.ownKeys ms).Nodup
  kept : ∀ m ∈ c.members, ∀ t, (m.name, t) ∈ ms → m.format.decode t = .ok (m.get s)
  missing : ∀ m ∈ c.members, m.name ∉ ms.map Prod.fst → m.get s = m.format.default
  carried : ∃ vs, HaveMembers (c.others ms) vs ∧ c.extra s = Keyed.ofList vs

/-- **A document is decoded as a record exactly if it is an object that is there to its end and the
record holds its members.** -/
theorem decode_eq_ok (hc : c.Lawful) :
    c.decode t = .ok s ↔ ∃ ms, t = .obj ms none ∧ c.Holds ms s := by
  have hobj : ∀ ms, c.layout.fill [] ms c.start = .ok s ↔ c.Holds ms s := by
    intro ms
    rw [fill_eq_ok hc]
    constructor
    · rintro ⟨⟨hnd, -⟩, hkept, vs, hvs, hextra⟩
      refine ⟨hnd, fun m hm => (hkept m hm).1, fun m hm h => ?_, vs, hvs, ?_⟩
      · rw [(hkept m hm).2 h, hc.get_start m hm]
      · rw [hextra, hc.extra_start, Keyed.ofList]
    · rintro ⟨hnd, hkept, hmissing, vs, hvs, hextra⟩
      refine ⟨⟨hnd, by simp⟩, fun m hm => ⟨hkept m hm, fun h => ?_⟩, vs, hvs, ?_⟩
      · rw [hmissing m hm h, hc.get_start m hm]
      · rw [hextra, hc.extra_start, Keyed.ofList]
  unfold decode Layout.decode
  split
  · next ms cut =>
    simp only [bind_eq_ok, unlessCut_eq_ok, Tree.obj.injEq]
    constructor
    · rintro ⟨_, hfill, rfl, rfl⟩
      exact ⟨ms, ⟨rfl, rfl⟩, (hobj ms).1 hfill⟩
    · rintro ⟨_, ⟨rfl, rfl⟩, hholds⟩
      exact ⟨s, (hobj ms).2 hholds, rfl, rfl⟩
  · simp
  · next hne _ =>
    simp only [reduceCtorEq, false_iff]
    rintro ⟨ms, rfl, -⟩
    exact hne ms none rfl

end Schema

end JobWatch.Json
