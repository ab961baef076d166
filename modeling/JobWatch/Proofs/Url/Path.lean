import JobWatch.Proofs.Url.Percent
import JobWatch.Url
import Mathlib.Data.List.Basic
import Mathlib.Data.List.TakeWhile

/-!
Paths of URLs, and references relative to them.

The segments of a path are read back from its text: they are percent-encoded, hold no slash, and
mean no directory by dots. So a path that is ended with a slash and read once more has the segments
it had, and names that are referred to from a directory are its last segments.
-/

namespace JobWatch.Url

/-! ### Segments -/

/-- A character that a path holds as it is: it would not be encoded, nor end a segment. -/
def isPathChar (c : Char) : Bool := c.toNat < 0x80 && !inPathSet c && c ≠ '/' && c ≠ '\\'

def IsPlain (s : List Char) : Prop := s.all isPathChar = true

/-- A segment as a path holds it, which means no other directory. -/
structure IsSegment (s : List Char) : Prop where
  plain : IsPlain s
  single : isSingleDot s = false
  double : isDoubleDot s = false

instance (s : List Char) : Decidable (IsPlain s) :=
  inferInstanceAs (Decidable (s.all isPathChar = true))

instance (s : List Char) : Decidable (IsSegment s) :=
  decidable_of_iff (IsPlain s ∧ isSingleDot s = false ∧ isDoubleDot s = false)
    ⟨fun h => ⟨h.1, h.2.1, h.2.2⟩, fun h => ⟨h.plain, h.single, h.double⟩⟩

lemma isSegment_nil : IsSegment [] := by decide

lemma isPathChar_iff {c : Char} :
    isPathChar c = true ↔ c.toNat < 0x80 ∧ inPathSet c = false ∧ c ≠ '/' ∧ c ≠ '\\' := by
  simp [isPathChar, and_assoc]

lemma IsPlain.mem {s : List Char} (h : IsPlain s) {c : Char} (hc : c ∈ s) :
    c.toNat < 0x80 ∧ inPathSet c = false ∧ c ≠ '/' ∧ c ≠ '\\' :=
  isPathChar_iff.1 (List.all_eq_true.1 h c hc)

lemma IsPlain.percentEncode {s : List Char} (h : IsPlain s) : percentEncode inPathSet s = s := by
  induction s with
  | nil => rfl
  | cons c s ih =>
    obtain ⟨hascii, hset, -⟩ := h.mem List.mem_cons_self
    have hs : IsPlain s := List.all_eq_true.2 fun d hd =>
      List.all_eq_true.1 h d (List.mem_cons_of_mem c hd)
    rw [Url.percentEncode, List.flatMap_cons, if_pos ⟨hascii, by simp [hset]⟩]
    exact congrArg (c :: ·) (ih hs)

/-- What has been encoded for a path is plain. -/
lemma isPlain_percentEncode {s : List Char} (hslash : '/' ∉ s) (hback : '\\' ∉ s) :
    IsPlain (percentEncode inPathSet s) := by
  have hhex : ∀ n < 16, isPathChar (upperHex n) = true := by decide
  refine List.all_eq_true.2 fun d hd => ?_
  obtain ⟨c, hc, hd⟩ := List.mem_flatMap.1 hd
  split at hd
  · next hplain =>
    rw [List.mem_singleton.1 hd]
    refine isPathChar_iff.2 ⟨hplain.1, by simpa using hplain.2, ?_, ?_⟩
    · rintro rfl
      exact hslash hc
    · rintro rfl
      exact hback hc
  · obtain ⟨b, -, hd⟩ := List.mem_flatMap.1 hd
    rcases mem_percentByte hd with rfl | ⟨n, hn, rfl⟩
    · rfl
    · exact hhex n hn

lemma mem_splitOn {sep d : Char} {cs part : List Char} (hpart : part ∈ splitOn sep cs)
    (hd : d ∈ part) : d ≠ sep ∧ d ∈ cs := by
  induction cs generalizing part with
  | nil =>
    rw [List.mem_singleton.1 hpart] at hd
    cases hd
  | cons c cs ih =>
    rw [splitOn] at hpart
    split at hpart
    · rcases List.mem_cons.1 hpart with rfl | hpart
      · cases hd
      · exact (ih hpart hd).imp_right (List.mem_cons_of_mem c)
    · next hc =>
      split at hpart
      · next first parts hsplit =>
        rw [hsplit] at ih
        rcases List.mem_cons.1 hpart with rfl | hpart
        · rcases List.mem_cons.1 hd with rfl | hd
          · exact ⟨hc, List.mem_cons_self⟩
          · exact (ih List.mem_cons_self hd).imp_right (List.mem_cons_of_mem c)
        · exact (ih (List.mem_cons_of_mem _ hpart) hd).imp_right (List.mem_cons_of_mem c)
      · rw [List.mem_singleton.1 hpart] at hd
        rw [List.mem_singleton.1 hd]
        exact ⟨hc, List.mem_cons_self⟩

/-- Segments that mean no other directory stay. -/
lemma resolveDots_segments (done : List (List Char)) {ss : List (List Char)}
    (h : ∀ s ∈ ss, IsSegment s) : resolveDots done ss = done.reverse ++ ss := by
  induction ss generalizing done with
  | nil => rw [resolveDots, List.append_nil]
  | cons s ss ih =>
    obtain ⟨hs, hss⟩ := List.forall_mem_cons.1 h
    rcases ss with _ | ⟨next, ss⟩
    · simp [resolveDots, hs.single, hs.double]
    · rw [resolveDots, hs.double, hs.single, if_neg Bool.false_ne_true,
        if_neg Bool.false_ne_true, ih _ hss, List.reverse_cons, List.append_assoc,
        List.singleton_append]
      exact List.cons_ne_nil next ss

/-- Dots resolved, a path has segments that mean no other directory, at least one. -/
lemma isSegment_resolveDots {done ss : List (List Char)} (hne : ss ≠ [])
    (hdone : ∀ s ∈ done, IsSegment s) (hss : ∀ s ∈ ss, IsPlain s) :
    resolveDots done ss ≠ [] ∧ ∀ s ∈ resolveDots done ss, IsSegment s := by
  have hsegments {done : List (List Char)} (h : ∀ s ∈ done, IsSegment s) {s : List Char}
      (hs : IsSegment s) :
      (s :: done).reverse ≠ [] ∧ ∀ t ∈ (s :: done).reverse, IsSegment t := by
    refine ⟨by simp, fun t ht => ?_⟩
    rcases List.mem_cons.1 (List.mem_reverse.1 ht) with rfl | ht
    · exact hs
    · exact h t ht
  have hup {done : List (List Char)} (h : ∀ s ∈ done, IsSegment s) :
      ∀ s ∈ done.drop 1, IsSegment s := fun s hs => h s (List.mem_of_mem_drop hs)
  fun_induction resolveDots done ss with
  | case1 done => exact absurd rfl hne
  | case2 done s hdouble => exact hsegments (hup hdone) isSegment_nil
  | case3 done s hdouble hsingle => exact hsegments hdone isSegment_nil
  | case4 done s hdouble hsingle =>
    exact hsegments hdone ⟨hss s (by simp), by simpa using hsingle, by simpa using hdouble⟩
  | case5 done s ss hmore hdouble ih =>
    exact ih hmore (hup hdone) (List.forall_mem_cons.1 hss).2
  | case6 done s ss hmore hdouble hsingle ih =>
    exact ih hmore hdone (List.forall_mem_cons.1 hss).2
  | case7 done s ss hmore hdouble hsingle ih =>
    obtain ⟨hs, hss⟩ := List.forall_mem_cons.1 hss
    refine ih hmore (List.forall_mem_cons.2 ⟨?_, hdone⟩) hss
    exact ⟨hs, by simpa using hsingle, by simpa using hdouble⟩

/-! ### Paths -/

/-- The parts of a path, percent-encoded, are plain. -/
lemma isPlain_parts {cs : List Char} (h : '\\' ∉ cs) :
    ∀ s ∈ (splitOn '/' cs).map (percentEncode inPathSet), IsPlain s := by
  intro s hs
  obtain ⟨part, hpart, rfl⟩ := List.mem_map.1 hs
  refine isPlain_percentEncode (fun hmem => ?_) fun hmem => h (mem_splitOn hpart hmem).2
  exact (mem_splitOn hpart hmem).1 rfl

lemma splitOn_ne_nil (sep : Char) (cs : List Char) : splitOn sep cs ≠ [] := by
  rw [splitOn_eq]
  exact List.splitOn_ne_nil _ _

/-- Whatever a path is read from, its segments are at least one and mean no other directory. -/
lemma isSegment_segmentsOf (cs : List Char) :
    segmentsOf cs ≠ [] ∧ ∀ s ∈ segmentsOf cs, IsSegment s := by
  have hback : '\\' ∉ cs.map fun c => if c = '\\' then '/' else c := by
    intro hmem
    obtain ⟨c, -, hc⟩ := List.mem_map.1 hmem
    split at hc
    · exact absurd hc (by decide)
    · next hne => exact hne hc
  have hread {inner : List Char} (hinner : '\\' ∉ inner) :
      resolveDots [] ((splitOn '/' inner).map (percentEncode inPathSet)) ≠ [] ∧
        ∀ s ∈ resolveDots [] ((splitOn '/' inner).map (percentEncode inPathSet)), IsSegment s :=
    isSegment_resolveDots (by simpa using splitOn_ne_nil _ _) (by simp) (isPlain_parts hinner)
  rw [segmentsOf]
  split
  · next rest hrest =>
    rw [hrest, List.mem_cons, not_or] at hback
    exact hread hback.2
  · exact hread hback

/-- The text of a path, as its segments between slashes. -/
lemma flatMap_slash {ss : List (List Char)} (hne : ss ≠ []) :
    ss.flatMap ('/' :: ·) = '/' :: ['/'].intercalate ss := by
  induction ss with
  | nil => exact absurd rfl hne
  | cons s ss ih =>
    rcases ss with _ | ⟨next, ss⟩
    · simp
    · rw [List.flatMap_cons, ih (by simp), List.intercalate_cons_cons, List.append_assoc]
      rfl

lemma mem_flatMap_slash {ss : List (List Char)} (h : ∀ s ∈ ss, IsSegment s) {c : Char}
    (hc : c ∈ ss.flatMap ('/' :: ·)) : inPathSet c = false ∧ c ≠ '\\' := by
  obtain ⟨s, hs, hc⟩ := List.mem_flatMap.1 hc
  rcases List.mem_cons.1 hc with rfl | hc
  · decide
  · obtain ⟨-, hset, -, hback⟩ := (h s hs).plain.mem hc
    exact ⟨hset, hback⟩

lemma map_slash {cs : List Char} (h : ∀ c ∈ cs, c ≠ '\\') :
    cs.map (fun c => if c = '\\' then '/' else c) = cs :=
  (List.map_congr_left fun c hc => if_neg (h c hc)).trans (List.map_id _)

/-- Segments are parted at their slashes again, and nothing in them is encoded once more. -/
lemma parts_segments {ss : List (List Char)} (hne : ss ≠ []) (h : ∀ s ∈ ss, IsSegment s) :
    (splitOn '/' (['/'].intercalate ss)).map (percentEncode inPathSet) = ss := by
  have hslash : ∀ s ∈ ss, '/' ∉ s := fun s hs hmem => ((h s hs).plain.mem hmem).2.2.1 rfl
  rw [splitOn_eq, List.splitOn_intercalate _ hslash hne]
  exact (List.map_congr_left fun s hs => (h s hs).plain.percentEncode).trans (List.map_id _)

/-- A path is read back from its text. -/
lemma segmentsOf_text {ss : List (List Char)} (hne : ss ≠ []) (h : ∀ s ∈ ss, IsSegment s) :
    segmentsOf (ss.flatMap ('/' :: ·)) = ss := by
  rw [segmentsOf, map_slash fun c hc => (mem_flatMap_slash h hc).2, flatMap_slash hne]
  show resolveDots [] ((splitOn '/' (['/'].intercalate ss)).map (percentEncode inPathSet)) = ss
  rw [parts_segments hne h, resolveDots_segments [] h]
  rfl

/-! ### The path of a URL -/

/-- A URL whose path could have been read. -/
def HasPath (u : Url) : Prop := u.segments ≠ [] ∧ ∀ s ∈ u.segments, IsSegment s

/-- A path ends with a slash exactly if its last segment is empty. -/
lemma getLast?_path {u : Url} (hu : u.HasPath) :
    u.path.getLast? = some '/' ↔ u.isDirectory = true := by
  rcases List.eq_nil_or_concat' u.segments with hnil | ⟨front, s, hs⟩
  · exact absurd hnil hu.1
  have hlast : u.segments.getLast? = some s := by rw [hs, List.getLast?_concat]
  have hpath : u.path = front.flatMap ('/' :: ·) ++ '/' :: s := by
    rw [path, hs, List.flatMap_append, List.flatMap_singleton]
  rw [isDirectory, decide_eq_true_eq, hlast, Option.some.injEq, hpath, List.getLast?_append]
  rcases List.eq_nil_or_concat' s with rfl | ⟨more, c, rfl⟩
  · simp
  · have hmem : more ++ [c] ∈ u.segments := hs ▸ by simp
    have hc : c ≠ '/' := ((hu.2 _ hmem).plain.mem (c := c) (by simp)).2.2.1
    rw [← List.cons_append, List.getLast?_concat]
    simp [hc]

/-- A path, ended with a slash if it has none. -/
def slashed (path : List Char) : List Char :=
  if path.getLast? = some '/' then path else path ++ ['/']

lemma path_asDirectory {u : Url} (hu : u.HasPath) : u.asDirectory.path = slashed u.path := by
  rw [asDirectory, slashed]
  by_cases hdir : u.isDirectory = true
  · rw [if_pos hdir, if_pos ((getLast?_path hu).2 hdir)]
  · rw [if_neg hdir, if_neg (mt (getLast?_path hu).1 hdir), path, path, List.flatMap_append,
      List.flatMap_singleton]

lemma HasPath.asDirectory {u : Url} (hu : u.HasPath) : u.asDirectory.HasPath := by
  rw [Url.asDirectory]
  split
  · exact hu
  · exact ⟨by simp, List.forall_mem_append.2 ⟨hu.2, List.forall_mem_singleton.2 isSegment_nil⟩⟩

/-- A directory is the URL whose path is read from the one with a slash at its end. -/
lemma asDirectory_eq {u : Url} (hu : u.HasPath) :
    u.asDirectory = { u with segments := segmentsOf (slashed u.path) } := by
  rw [← path_asDirectory hu, path, segmentsOf_text hu.asDirectory.1 hu.asDirectory.2,
    Url.asDirectory]
  split <;> rfl

/-- A path has none of the marks that end one. -/
lemma mem_path {u : Url} (hu : u.HasPath) {c : Char} (hc : c ∈ u.path) : inPathSet c = false :=
  (mem_flatMap_slash hu.2 hc).1

/-- A path and a query are parted again. -/
lemma splitTail_query {path : List Char} {query : Option (List Char)}
    (hpath : ∀ c ∈ path, inPathSet c = false) (hquery : ∀ q ∈ query, '#' ∉ q) :
    splitTail (path ++ query.elim [] ('?' :: ·)) = (path, query, none) := by
  have hmark : ∀ c ∈ path, decide (c ≠ '?') = true := by
    intro c hc
    rw [decide_eq_true_eq]
    rintro rfl
    exact absurd (hpath '?' hc) (by decide)
  have hhash : ∀ c ∈ path ++ query.elim [] ('?' :: ·), decide (c ≠ '#') = true := by
    intro c hc
    rw [decide_eq_true_eq]
    rintro rfl
    rcases List.mem_append.1 hc with hc | hc
    · exact absurd (hpath '#' hc) (by decide)
    · cases query with
      | none => cases hc
      | some q => exact hquery q rfl ((List.mem_cons.1 hc).resolve_left (by decide))
  rw [splitTail, List.takeWhile_eq_self_iff.2 hhash, List.drop_length,
    List.takeWhile_append_of_pos hmark]
  cases query <;> simp

/-- What is read as a URL has a path. -/
lemma hasPath_ofRest {readHost : HostReader} {secure : Bool} {cs : List Char} {u : Url}
    (h : ofRest readHost secure cs = .ok u) : u.HasPath ∧ u.secure = secure := by
  rw [ofRest] at h
  dsimp only at h
  generalize authority? readHost true _ _ _ = authority at h
  cases authority with
  | error e => cases h
  | ok a =>
    cases h
    exact ⟨isSegment_segmentsOf _, rfl⟩

def scheme (u : Url) : String := if u.secure then "https" else "http"

/-- A text that is read as a URL has its scheme, which is one of the web. -/
lemma parse_eq_web {readHost : HostReader} {s : String} {u : Url}
    (h : parse readHost s = .ok (.web u)) :
    u.HasPath ∧ ∃ rest, scheme? (clean s.toList) = some (u.scheme, rest) := by
  have hread {secure : Bool} {rest : List Char}
      (h : (do return ParsedUrl.web (← ofRest readHost secure rest)) = .ok (.web u)) :
      u.HasPath ∧ u.secure = secure := by
    rcases hr : ofRest readHost secure rest with e | v
    · rw [hr] at h
      cases h
    · rw [hr] at h
      cases h
      exact hasPath_ofRest hr
  rw [parse] at h
  rcases hs : scheme? (clean s.toList) with _ | ⟨name, rest⟩
  · rw [hs] at h
    cases h
  · rw [hs] at h
    dsimp only at h
    split at h
    · next hname =>
      obtain ⟨hpath, hsecure⟩ := hread h
      exact ⟨hpath, rest, by simp [scheme, hsecure, hname]⟩
    · split at h
      · next hname =>
        obtain ⟨hpath, hsecure⟩ := hread h
        exact ⟨hpath, rest, by simp [scheme, hsecure, hname]⟩
      · generalize checkRest readHost name rest = checked at h
        cases checked <;> cases h

/-! ### Relative references -/

def isSlash (c : Char) : Bool := c = '/' || c = '\\'

/-- What a reference without a scheme means at a URL. After two slashes it has a host of its own.
After one it has a path of its own, else its path begins where the last segment was. A reference
without a path stays at the path, and at the query unless it has its own. -/
def relative (readHost : HostReader) (base : Url) (cs : List Char) : Except UrlError Url :=
  if (cs.takeWhile isSlash).length ≥ 2 then ofRest readHost base.secure cs
  else
    let (path, query, fragment) := splitTail cs
    let u : Url :=
      { base with
        query := query.map (percentEncode inQuerySet)
        fragment := fragment.map (percentEncode inFragmentSet) }
    match path with
    | [] => .ok { u with query := u.query <|> base.query }
    | c :: _ =>
      if isSlash c then .ok { u with segments := segmentsOf path }
      else
        let parts := splitOn '/' (path.map fun c => if c = '\\' then '/' else c)
        .ok { u with
          segments := resolveDots base.segments.dropLast.reverse
            (parts.map (percentEncode inPathSet)) }

/-- What a reference means at a URL. -/
def join (readHost : HostReader) (base : Url) (s : String) : Except UrlError ParsedUrl :=
  match scheme? (clean s.toList) with
  | none => (base.relative readHost (clean s.toList)).map .web
  | some (scheme, rest) =>
    if scheme = base.scheme then (base.relative readHost rest).map .web else parse readHost s

/-- Names do not begin with a slash. -/
lemma intercalate_head {first : List Char} {names : List (List Char)} (hfirst : first ≠ [])
    (hnames : ∀ name ∈ first :: names, IsSegment name) :
    ∃ c rest, ['/'].intercalate (first :: names) = c :: rest ∧ isSlash c = false := by
  rcases first with _ | ⟨c, more⟩
  · exact absurd rfl hfirst
  have hplain : IsPlain (c :: more) := (hnames _ List.mem_cons_self).plain
  obtain ⟨-, -, hslash, hback⟩ := hplain.mem List.mem_cons_self
  have hc : isSlash c = false := by simp [isSlash, hslash, hback]
  rcases names with _ | ⟨next, names⟩
  · exact ⟨c, more, List.intercalate_singleton, hc⟩
  · rw [List.intercalate_cons_cons]
    exact ⟨c, _, rfl, hc⟩

/-- Names alone come in the place of the last segment. -/
lemma join_names (readHost : HostReader) (u : Url) {s : String} (first : List Char)
    (names : List (List Char)) (hclean : clean s.toList = ['/'].intercalate (first :: names))
    (hscheme : scheme? (['/'].intercalate (first :: names)) = none) (hfirst : first ≠ [])
    (hnames : ∀ name ∈ first :: names, IsSegment name) :
    u.join readHost s = .ok (.web
      { u with
        segments := u.segments.dropLast ++ first :: names
        query := none
        fragment := none }) := by
  have hplain : ∀ c ∈ ['/'].intercalate (first :: names), inPathSet c = false ∧ c ≠ '\\' := by
    intro c hc
    refine mem_flatMap_slash hnames ?_
    rw [flatMap_slash (List.cons_ne_nil _ _)]
    exact List.mem_cons_of_mem _ hc
  have hslashed := map_slash fun c hc => (hplain c hc).2
  have hparts := parts_segments (List.cons_ne_nil _ _) hnames
  have htail : splitTail (['/'].intercalate (first :: names)) =
      (['/'].intercalate (first :: names), none, none) := by
    simpa using splitTail_query (fun c hc => (hplain c hc).1)
      (by simp : ∀ q ∈ (none : Option (List Char)), '#' ∉ q)
  have hresolved := resolveDots_segments u.segments.dropLast.reverse hnames
  obtain ⟨c, rest, hcs, hc⟩ := intercalate_head hfirst hnames
  rw [hcs] at hslashed hparts htail hclean hscheme
  rw [join, hclean, hscheme]
  dsimp only
  rw [relative, htail, List.takeWhile_cons_of_neg (by simp [hc]), if_neg (by simp)]
  dsimp only
  rw [hc, if_neg Bool.false_ne_true, hslashed, hparts, hresolved, List.reverse_reverse]
  rfl

end JobWatch.Url
