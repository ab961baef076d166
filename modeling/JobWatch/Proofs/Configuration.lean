import JobWatch.Configuration
import Mathlib.Data.List.Basic
import Mathlib.Data.List.TakeWhile
import Mathlib.Tactic.Lemma

/-!
Targets and what they stand for.

An alias is all that counts of a target that is no web address: neither the blanks around it nor
what follows its slash matter. A web address stands for itself, whatever is configured.
-/

namespace JobWatch

/-! ### Blanks -/

namespace Text

variable {a w w₁ w₂ : List Char}

lemma slash_not_mem_blank (hw : ∀ c ∈ w, isBlank c = true) : '/' ∉ w := by
  intro hmem
  exact absurd (hw '/' hmem) (by decide)

/-- Blanks go up to the first character that is none. -/
lemma dropWhile_blank (hw : ∀ c ∈ w, isBlank c = true)
    (ha : ∀ c ∈ a.head?, isBlank c = false) : (w ++ a).dropWhile isBlank = a := by
  rw [List.dropWhile_append_of_pos hw]
  rcases a with _ | ⟨c, a⟩
  · rfl
  · have hc : ¬ isBlank c = true := by simp [ha c rfl]
    rw [List.dropWhile_cons_of_neg hc]

/-- Blanks around a text that has none at its ends are all that is taken off. -/
lemma trim_padded (hw₁ : ∀ c ∈ w₁, isBlank c = true) (hw₂ : ∀ c ∈ w₂, isBlank c = true)
    (hhead : ∀ c ∈ a.head?, isBlank c = false) (hlast : ∀ c ∈ a.getLast?, isBlank c = false) :
    trim (w₁ ++ a ++ w₂) = a := by
  by_cases hnil : a = []
  · subst hnil
    have hall : ∀ c ∈ w₁ ++ w₂, isBlank c = true := List.forall_mem_append.2 ⟨hw₁, hw₂⟩
    have hdrop : (w₁ ++ w₂).dropWhile isBlank = [] := List.dropWhile_eq_nil_iff.2 hall
    rw [List.append_nil, trim, hdrop]
    rfl
  · have hfront : ∀ c ∈ (a ++ w₂).head?, isBlank c = false := by
      rwa [List.head?_append_of_ne_nil _ hnil]
    have hback : ∀ c ∈ a.reverse.head?, isBlank c = false := by
      rwa [List.head?_reverse]
    have hw₂' : ∀ c ∈ w₂.reverse, isBlank c = true := by simpa using hw₂
    rw [List.append_assoc, trim, dropWhile_blank hw₁ hfront, List.reverse_append,
      dropWhile_blank hw₂' hback, List.reverse_reverse]

end Text

namespace Configuration

/-- A name that an alias can have: no slash in it, and no blank at its ends. -/
structure IsName (a : String) : Prop where
  slash : '/' ∉ a.toList
  head : ∀ c ∈ a.toList.head?, Text.isBlank c = false
  last : ∀ c ∈ a.toList.getLast?, Text.isBlank c = false

/-- A text that is all blank. -/
def IsBlank (w : String) : Prop := ∀ c ∈ w.toList, Text.isBlank c = true

instance (w : String) : Decidable (IsBlank w) :=
  decidable_of_iff (w.toList.all Text.isBlank = true) List.all_eq_true

/-- Whether a text begins with one of the web schemes and its slashes. -/
def BeginsWeb (target : String) : Prop :=
  "http://".toList <+: target.toList ∨ "https://".toList <+: target.toList

lemma isWebAddress_iff (target : String) : isWebAddress target = true ↔ BeginsWeb target := by
  rw [isWebAddress, Bool.or_eq_true, List.isPrefixOf_iff_prefix, List.isPrefixOf_iff_prefix]
  rfl

instance (target : String) : Decidable (BeginsWeb target) :=
  decidable_of_iff _ (isWebAddress_iff target)

section Alias

variable {a w₁ w₂ : String} (ha : IsName a)

include ha

/-- The alias of a target is the name in front of its first slash. -/
lemma aliasOf_followed (hw₁ : IsBlank w₁) (hw₂ : IsBlank w₂) (s : String) :
    aliasOf (w₁ ++ a ++ w₂ ++ "/" ++ s) = a := by
  have hfront : ∀ c ∈ w₁.toList ++ a.toList ++ w₂.toList, decide (c ≠ '/') = true := by
    intro c hc
    rw [decide_eq_true_eq]
    rintro rfl
    rw [List.mem_append, List.mem_append] at hc
    rcases hc with (hc | hc) | hc
    · exact Text.slash_not_mem_blank hw₁ hc
    · exact ha.slash hc
    · exact Text.slash_not_mem_blank hw₂ hc
  have hlist : (w₁ ++ a ++ w₂ ++ "/" ++ s).toList =
      (w₁.toList ++ a.toList ++ w₂.toList) ++ '/' :: s.toList := by
    simp
  have htake : (w₁ ++ a ++ w₂ ++ "/" ++ s).toList.takeWhile (· ≠ '/') =
      w₁.toList ++ a.toList ++ w₂.toList := by
    rw [hlist, List.takeWhile_append_of_pos hfront, List.takeWhile_cons_of_neg (by simp),
      List.append_nil]
  rw [aliasOf, htake, Text.trim_padded hw₁ hw₂ ha.head ha.last, String.ofList_toList]

/-- A name is its own alias. -/
lemma aliasOf_name : aliasOf a = a := by
  have hall : ∀ c ∈ a.toList, decide (c ≠ '/') = true := by
    intro c hc
    rw [decide_eq_true_eq]
    rintro rfl
    exact ha.slash hc
  have htake : a.toList.takeWhile (· ≠ '/') = a.toList := List.takeWhile_eq_self_iff.2 hall
  have htrim : Text.trim ([] ++ a.toList ++ []) = a.toList :=
    Text.trim_padded (by simp) (by simp) ha.head ha.last
  rw [List.nil_append, List.append_nil] at htrim
  rw [aliasOf, htake, htrim, String.ofList_toList]

lemma not_beginsWeb_name : ¬ BeginsWeb a := by
  rintro (hweb | hweb)
  · exact ha.slash (hweb.subset (by decide))
  · exact ha.slash (hweb.subset (by decide))

end Alias

/-! ### Outcomes -/

variable {readHost : Url.HostReader} {c : Configuration} {a target : String}

/-- An endpoint that a name is configured to stand for: that of the URL of its entry, with the time
limit for connecting that the entry sets, if it sets one. -/
def IsConfigured (readHost : Url.HostReader) (c : Configuration) (a : String) (e : Endpoint) :
    Prop :=
  ∃ entry base, c.aliases.get? a = some entry ∧ Endpoint.ofTextWith readHost entry.url = .ok base ∧
    e.url = base.url ∧ e.maxLineBytes = base.maxLineBytes ∧
    (∀ secs, entry.connectTimeoutSecs = some secs → e.connectTimeoutSecs = secs) ∧
    (entry.connectTimeoutSecs = none → e.connectTimeoutSecs = base.connectTimeoutSecs)

/-- What comes of a target with an alias: its configured endpoint, or why there is none. -/
structure ByAlias (readHost : Url.HostReader) (c : Configuration) (a target : String)
    (outcome : Except TargetError Endpoint) : Prop where
  ok : ∀ e, outcome = .ok e ↔ IsConfigured readHost c a e
  unknown : outcome = .error (.unknownAlias a) ↔ c.aliases.get? a = none
  refused : ∀ cause, outcome = .error (.endpoint target cause) ↔
    ∃ entry, c.aliases.get? a = some entry ∧ Endpoint.ofTextWith readHost entry.url = .error cause

/-- The outcomes of a target and of its alias alone: one endpoint, or one kind of error. -/
inductive SameOutcome (a target : String) :
    Except TargetError Endpoint → Except TargetError Endpoint → Prop
  | resolved (e : Endpoint) : SameOutcome a target (.ok e) (.ok e)
  | unknown : SameOutcome a target (.error (.unknownAlias a)) (.error (.unknownAlias a))
  | refused (cause : AdminError) :
    SameOutcome a target (.error (.endpoint target cause)) (.error (.endpoint a cause))

/-- With an entry whose URL will do, a name stands for one endpoint. -/
lemma isConfigured_iff {entry : AliasEntry} {base : Endpoint}
    (hentry : c.aliases.get? a = some entry)
    (hurl : Endpoint.ofTextWith readHost entry.url = .ok base) (e : Endpoint) :
    IsConfigured readHost c a e ↔
      e = { base with
        connectTimeoutSecs := entry.connectTimeoutSecs.getD base.connectTimeoutSecs } := by
  constructor
  · rintro ⟨entry', base', hentry', hurl', haddress, hlines, hset, hkept⟩
    obtain rfl : entry = entry' := Option.some.inj (hentry.symm.trans hentry')
    obtain rfl : base = base' := Except.ok.inj (hurl.symm.trans hurl')
    have htimeout : e.connectTimeoutSecs =
        entry.connectTimeoutSecs.getD base.connectTimeoutSecs := by
      rcases hsecs : entry.connectTimeoutSecs with _ | secs
      · exact hkept hsecs
      · exact hset secs hsecs
    obtain ⟨url, timeout, most⟩ := e
    rw [← haddress, ← hlines, ← htimeout]
  · rintro rfl
    refine ⟨entry, base, hentry, hurl, rfl, rfl, fun secs hsecs => ?_, fun hsecs => ?_⟩
    · show entry.connectTimeoutSecs.getD _ = _
      rw [hsecs, Option.getD_some]
    · show entry.connectTimeoutSecs.getD _ = _
      rw [hsecs, Option.getD_none]

section Entries

variable (hweb : ¬ BeginsWeb target) (halias : aliasOf target = a)

include hweb halias

lemma resolve_unknown (hnone : c.aliases.get? a = none) :
    c.resolveWith readHost target = .error (.unknownAlias a) := by
  rw [resolveWith, if_neg (mt (isWebAddress_iff target).1 hweb), halias, hnone]

lemma resolve_known {entry : AliasEntry} (hentry : c.aliases.get? a = some entry) :
    c.resolveWith readHost target =
      match Endpoint.ofTextWith readHost entry.url with
      | .error cause => .error (.endpoint target cause)
      | .ok base => .ok { base with
          connectTimeoutSecs := entry.connectTimeoutSecs.getD base.connectTimeoutSecs } := by
  rw [resolveWith, if_neg (mt (isWebAddress_iff target).1 hweb), halias, hentry]
  dsimp only
  cases Endpoint.ofTextWith readHost entry.url <;> rfl

/-- What comes of a target is a matter of the entry of its alias. -/
lemma byAlias : ByAlias readHost c a target (c.resolveWith readHost target) := by
  rcases hentry : c.aliases.get? a with _ | entry
  · rw [resolve_unknown hweb halias hentry]
    exact ⟨by simp [IsConfigured, hentry], by simp [hentry], by simp [hentry]⟩
  rw [resolve_known hweb halias hentry]
  rcases hurl : Endpoint.ofTextWith readHost entry.url with cause | base
  · exact ⟨by simp [IsConfigured, hentry, hurl], by simp [hentry], by simp [hentry, hurl]⟩
  · refine ⟨fun e => ?_, by simp [hentry], by simp [hentry, hurl]⟩
    rw [isConfigured_iff hentry hurl, Except.ok.injEq, eq_comm]

/-- A target comes to the same as its alias alone. -/
lemma sameOutcome (ha : IsName a) :
    SameOutcome a target (c.resolveWith readHost target) (c.resolveWith readHost a) := by
  have hweb' := not_beginsWeb_name ha
  have halias' := aliasOf_name ha
  rcases hentry : c.aliases.get? a with _ | entry
  · rw [resolve_unknown hweb halias hentry, resolve_unknown hweb' halias' hentry]
    exact .unknown
  rw [resolve_known hweb halias hentry, resolve_known hweb' halias' hentry]
  rcases Endpoint.ofTextWith readHost entry.url with cause | base
  · exact .refused cause
  · exact .resolved _

end Entries

lemma resolve_web (hweb : BeginsWeb target) (c : Configuration) :
    c.resolveWith readHost target =
      (Endpoint.ofTextWith readHost target).mapError (.endpoint target) := by
  rw [resolveWith, if_pos ((isWebAddress_iff target).2 hweb)]

/-- **Only the alias of a target counts.** Blanks around a name and whatever follows it behind a
slash change nothing, unless they make a web address of it: the outcome is that of the name alone,
and it is the endpoint of the name's entry, if it has one whose URL will do. A web address is its
own endpoint, whatever is configured. -/
theorem alias_alone_counts (readHost : Url.HostReader) (c : Configuration) :
    (∀ a w₁ w₂ s, IsName a → IsBlank w₁ → IsBlank w₂ → ¬ BeginsWeb (w₁ ++ a ++ w₂ ++ "/" ++ s) →
      SameOutcome a (w₁ ++ a ++ w₂ ++ "/" ++ s)
        (c.resolveWith readHost (w₁ ++ a ++ w₂ ++ "/" ++ s)) (c.resolveWith readHost a) ∧
      ByAlias readHost c a (w₁ ++ a ++ w₂ ++ "/" ++ s)
        (c.resolveWith readHost (w₁ ++ a ++ w₂ ++ "/" ++ s)) ∧
      ByAlias readHost c a a (c.resolveWith readHost a)) ∧
    (∀ target, BeginsWeb target →
      c.resolveWith readHost target =
        (Endpoint.ofTextWith readHost target).mapError (.endpoint target) ∧
      ∀ c' : Configuration, c'.resolveWith readHost target = c.resolveWith readHost target) := by
  constructor
  · intro a w₁ w₂ s ha hw₁ hw₂ hweb
    have halias := aliasOf_followed ha hw₁ hw₂ s
    exact ⟨sameOutcome hweb halias ha, byAlias hweb halias,
      byAlias (not_beginsWeb_name ha) (aliasOf_name ha)⟩
  · intro target hweb
    refine ⟨resolve_web hweb c, fun c' => ?_⟩
    rw [resolve_web hweb, resolve_web hweb]

/-- An alias that is all but a web scheme. -/
def misleading : Configuration where
  aliases := .ofList [("http:", { url := "https://play.min.io", connectTimeoutSecs := some 3 })]

/-- A blank keeps a target from being a web address, so its alias counts. -/
theorem alias_alone_counts_misleading :
    IsName "http:" ∧ IsBlank " " ∧ IsBlank "" ∧
    ¬ BeginsWeb (" " ++ "http:" ++ "" ++ "/" ++ "/bucket") ∧
    (∃ e, misleading.resolveWith Url.normalHost " http://bucket" = .ok e ∧
      misleading.resolveWith Url.normalHost "http:" = .ok e ∧
      e.url.text = "https://play.min.io/" ∧ e.connectTimeoutSecs = 3) ∧
    BeginsWeb "http://localhost:9000" ∧
    misleading.resolveWith Url.normalHost "http://localhost:9000" =
      ({} : Configuration).resolveWith Url.normalHost "http://localhost:9000" := by
  have hname : IsName "http:" := by
    refine ⟨by decide, fun c hc => ?_, fun c hc => ?_⟩
    · obtain rfl : 'h' = c := Option.some.inj hc
      rfl
    · obtain rfl : ':' = c := Option.some.inj hc
      rfl
  have hblank : IsBlank " " := by decide
  have hempty : IsBlank "" := by decide
  have hweb : ¬ BeginsWeb (" " ++ "http:" ++ "" ++ "/" ++ "/bucket") := by decide
  have hurl : Endpoint.ofTextWith Url.normalHost "https://play.min.io" =
      .ok { url := ⟨true, [], "play.min.io".toList, none, [[]], none, none⟩ } := by decide +kernel
  have hconfigured : IsConfigured Url.normalHost misleading "http:"
      { url := ⟨true, [], "play.min.io".toList, none, [[]], none, none⟩
        connectTimeoutSecs := 3 } :=
    (isConfigured_iff (by rfl) hurl _).2 rfl
  obtain ⟨haliases, haddresses⟩ := alias_alone_counts Url.normalHost misleading
  obtain ⟨-, htarget, halone⟩ :=
    haliases "http:" " " "" "/bucket" hname hblank hempty hweb
  have haddress : BeginsWeb "http://localhost:9000" := by decide
  exact ⟨hname, hblank, hempty, hweb,
    ⟨_, (htarget.ok _).2 hconfigured, (halone.ok _).2 hconfigured, by decide +kernel, rfl⟩,
    haddress, ((haddresses _ haddress).2 {}).symm⟩

end Configuration

end JobWatch
