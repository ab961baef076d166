import JobWatch.Proofs.Json.ByValue
import JobWatch.Proofs.Report.Envelope

/-!
What a report says about a job, told by the document it was read from.

A report is read of the value of its document, so one may go there from member to member. Whether
there is a section on batch jobs, and what stands in it under the name of the job, settles what the
report says about that job; nothing else of the document does.
-/

namespace JobWatch

open Json

/-! ### Reports by value -/

lemma Timestamp.format_byValue : Timestamp.format.ByValue := by
  intro t x v h hv
  obtain ⟨s, rfl, hs⟩ := decode_eq_ok.1 h
  cases hv
  exact h

lemma Counters.members_byValue : schema.MembersByValue := by
  simp only [Schema.MembersByValue, schema, List.forall_mem_cons, List.not_mem_nil, false_imp_iff,
    implies_true, and_true]
  exact ⟨Format.string_byValue, Format.string_byValue, Format.nat_byValue _, Format.nat_byValue _⟩

lemma Replication.members_byValue : schema.MembersByValue := by
  simp only [Schema.MembersByValue, schema, List.forall_mem_cons, List.not_mem_nil, false_imp_iff,
    implies_true, and_true]
  exact ⟨Format.string_byValue, Format.string_byValue, Format.nat_byValue _, Format.nat_byValue _,
    Format.nat_byValue _, Format.nat_byValue _⟩

lemma Snapshot.members_byValue : schema.MembersByValue := by
  have hsection : Counters.schema.optional.ByValue :=
    Schema.optional_byValue Counters.schema_lawful Counters.members_byValue
  simp only [Schema.MembersByValue, schema, List.forall_mem_cons, List.not_mem_nil, false_imp_iff,
    implies_true, and_true]
  exact ⟨Format.string_byValue, Format.string_byValue, Timestamp.format_byValue,
    Timestamp.format_byValue, Format.nat_byValue _, Format.bool_byValue, Format.bool_byValue,
    Schema.optional_byValue Replication.schema_lawful Replication.members_byValue,
    hsection, hsection⟩

lemma BatchJobs.members_byValue : schema.MembersByValue := by
  simp only [Schema.MembersByValue, schema, List.forall_mem_cons, List.not_mem_nil, false_imp_iff,
    implies_true, and_true]
  exact ⟨Timestamp.format_byValue,
    Schema.keyed_byValue Snapshot.schema_lawful Snapshot.members_byValue⟩

lemma Aggregated.members_byValue : schema.MembersByValue := by
  simp only [Schema.MembersByValue, schema, List.forall_mem_cons, List.not_mem_nil, false_imp_iff,
    implies_true, and_true]
  exact Schema.optional_byValue BatchJobs.schema_lawful BatchJobs.members_byValue

lemma Report.members_byValue : schema.MembersByValue := by
  simp only [Schema.MembersByValue, schema, List.forall_mem_cons, List.not_mem_nil, false_imp_iff,
    implies_true, and_true]
  exact ⟨Format.strings_byValue, Format.strings_byValue,
    Schema.byValue Aggregated.schema_lawful Aggregated.members_byValue, Format.bool_byValue⟩

/-! ### The way to a job -/

variable {v u : Value} {name : String}

/-- A flag that is absent is not set. -/
lemma Snapshot.get_flag {s : Snapshot} (h : Snapshot.decode v.tree = .ok s)
    (set : Bool → Snapshot → Snapshot) (get : Snapshot → Bool)
    (hm : ⟨name, Bool, .bool, set, get⟩ ∈ Snapshot.schema.members) : get s = v.isSet name := by
  rw [Value.isSet]
  rcases hu : v.member? name with _ | u
  · exact Schema.get_absent Snapshot.schema_lawful h hm hu
  · have hread : decodeBool u.tree = .ok (get s) :=
      Schema.get_present Snapshot.schema_lawful h hm hu
    rw [Format.decodeBool_eq_ok, Value.tree_eq_bool] at hread
    rw [hread]

/-- How a job ended, by its two flags in the document. -/
lemma Snapshot.outcome_decode {s : Snapshot} (h : Snapshot.decode v.tree = .ok s) :
    s.outcome =
      if v.isSet "failed" then some .failed else if v.isSet "complete" then some .complete
      else none := by
  have hfailed : s.failed = v.isSet "failed" :=
    get_flag h (fun x s => { s with failed := x }) (·.failed) (by simp [Snapshot.schema])
  have hcomplete : s.complete = v.isSet "complete" :=
    get_flag h (fun x s => { s with complete := x }) (·.complete) (by simp [Snapshot.schema])
  rw [outcome, hfailed, hcomplete]

/-- The jobs of a section are those of its member `jobs`, each read by itself. -/
lemma BatchJobs.get?_decode {batch : BatchJobs} (hv : v.IsCanonical)
    (h : BatchJobs.decode v.tree = .ok batch) (id : String) :
    (v.at? ["jobs", id] = none → batch.jobs.get? id = none) ∧
      ∀ j, v.at? ["jobs", id] = some j →
        ∃ s, Snapshot.decode j.tree = .ok s ∧ batch.jobs.get? id = some s := by
  have hm : ⟨"jobs", Keyed Snapshot, Snapshot.schema.keyed, fun x s => { s with jobs := x },
      (·.jobs)⟩ ∈ BatchJobs.schema.members := by simp [BatchJobs.schema]
  rw [Value.at?_cons]
  rcases hjobs : v.member? "jobs" with _ | u
  · have hempty : batch.jobs = .empty := Schema.get_absent BatchJobs.schema_lawful h hm hjobs
    rw [hempty]
    exact ⟨fun _ => rfl, fun j hj => by simp at hj⟩
  · have hread : decodeKeyed Snapshot.schema.decode u.tree = .ok batch.jobs :=
      Schema.get_present BatchJobs.schema_lawful h hm hjobs
    rw [Option.bind_some, Value.at?_singleton]
    exact Schema.get?_keyed (hv.member? hjobs) hread id

/-- Where the section on batch jobs stands in a document. -/
def batchJobsPath : List String := ["aggregated", "batchJobs"]

/-- Where a job stands in a document. -/
def jobPath (id : String) : List String := batchJobsPath ++ ["jobs", id]

/-- The section on batch jobs is read of the member it stands in; it is missing if that member is
absent or null. -/
lemma Report.batchJobs_decode {r : Report} (hv : v.IsCanonical)
    (h : Report.decode v.tree = .ok r) :
    ((v.at? batchJobsPath = none ∨ v.at? batchJobsPath = some .null) ∧
      r.aggregated.batchJobs = none) ∨
    ∃ ms batch, v.at? batchJobsPath = some (.obj ms) ∧ (Value.obj ms).IsCanonical ∧
      BatchJobs.decode (Value.obj ms).tree = .ok batch ∧ r.aggregated.batchJobs = some batch := by
  have hm : ⟨"aggregated", Aggregated, Aggregated.schema.format,
      fun x s => { s with aggregated := x }, (·.aggregated)⟩ ∈ Report.schema.members := by
    simp [Report.schema]
  have hm' : ⟨"batchJobs", Option BatchJobs, BatchJobs.schema.optional,
      fun x s => { s with batchJobs := x }, (·.batchJobs)⟩ ∈ Aggregated.schema.members := by
    simp [Aggregated.schema]
  rw [batchJobsPath, Value.at?_cons]
  rcases haggregated : v.member? "aggregated" with _ | a
  · have hdefault : r.aggregated = {} := Schema.get_absent Report.schema_lawful h hm haggregated
    exact .inl ⟨.inl rfl, by rw [hdefault]⟩
  have ha : Aggregated.schema.decode a.tree = .ok r.aggregated :=
    Schema.get_present Report.schema_lawful h hm haggregated
  rw [Option.bind_some, Value.at?_singleton]
  rcases hsection : a.member? "batchJobs" with _ | b
  · exact .inl ⟨.inl rfl, Schema.get_absent Aggregated.schema_lawful ha hm' hsection⟩
  have hb : decodeOption BatchJobs.schema.decode b.tree = .ok r.aggregated.batchJobs :=
    Schema.get_present Aggregated.schema_lawful ha hm' hsection
  rcases Schema.decodeOption_eq_ok.1 hb with ⟨hnull, hnone⟩ | ⟨-, batch, hbatch, hsome⟩
  · rw [Value.tree_eq_null.1 hnull]
    exact .inl ⟨.inr rfl, hnone⟩
  · obtain ⟨ms, htree, -⟩ := (Schema.decode_eq_ok BatchJobs.schema_lawful).1 hbatch
    obtain ⟨es, rfl, -⟩ := Value.tree_eq_obj.1 htree
    exact .inr ⟨es, batch, rfl, (hv.member? haggregated).member? hsection, hbatch, hsome⟩

namespace Report

variable {V : Value} {r : Report}

/-- What a report says about a job, in the three cases of its document. -/
lemma lookup_decode (hV : V.IsCanonical) (h : Report.decode V.tree = .ok r) (id : String) :
    ((V.at? batchJobsPath = none ∨ V.at? batchJobsPath = some .null) ∧
      r.lookup id = .noAggregation) ∨
    (∃ ms, V.at? batchJobsPath = some (.obj ms)) ∧
      (V.at? (jobPath id) = none ∧ r.lookup id = .jobMissing ∨
        ∃ j s, V.at? (jobPath id) = some j ∧ Snapshot.decode j.tree = .ok s ∧
          r.lookup id = .found s) := by
  rcases batchJobs_decode hV h with ⟨hpath, hnone⟩ | ⟨ms, batch, hpath, hms, hbatch, hsome⟩
  · exact .inl ⟨hpath, by rw [lookup, hnone]⟩
  · have hjob : V.at? (jobPath id) = (Value.obj ms).at? ["jobs", id] := by
      rw [jobPath, Value.at?_append, hpath, Option.bind_some]
    obtain ⟨hmissing, hfound⟩ := BatchJobs.get?_decode hms hbatch id
    refine .inr ⟨⟨ms, hpath⟩, ?_⟩
    rw [hjob, lookup, hsome]
    rcases hj : (Value.obj ms).at? ["jobs", id] with _ | j
    · exact .inl ⟨rfl, by simp only [hmissing hj]⟩
    · obtain ⟨s, hs, hget⟩ := hfound j hj
      exact .inr ⟨j, s, rfl, hs, by simp only [hget]⟩

/-- A report is read of the value of its document. -/
lemma exists_value {bs : List UInt8} (h : Report.ofBytes bs = .ok r) :
    ∃ V, valueOfBytes bs = .ok V ∧ V.IsCanonical ∧ Report.decode V.tree = .ok r := by
  obtain ⟨t, rest, hread, hdecode, hblank⟩ := decodeDocument_eq_ok.1 h
  rw [decode_eq] at hdecode ⊢
  obtain ⟨V, hV⟩ := format_lawful.hasValue hdecode
  exact ⟨V, decodeDocument_eq_ok.2 ⟨t, rest, hread, hV, hblank⟩, isCanonical_of_toValue hV,
    Schema.byValue schema_lawful members_byValue hdecode hV⟩

lemma lookup_eq_noAggregation (hV : V.IsCanonical) (h : Report.decode V.tree = .ok r)
    (id : String) :
    r.lookup id = .noAggregation ↔
      V.at? batchJobsPath = none ∨ V.at? batchJobsPath = some .null := by
  rcases lookup_decode hV h id with ⟨hpath, hl⟩ | ⟨⟨ms, hpath⟩, ⟨-, hl⟩ | ⟨j, s, -, -, hl⟩⟩
  · simp [hl, hpath]
  · simp [hl, hpath]
  · simp [hl, hpath]

lemma lookup_eq_jobMissing (hV : V.IsCanonical) (h : Report.decode V.tree = .ok r)
    (id : String) :
    r.lookup id = .jobMissing ↔
      (∃ ms, V.at? batchJobsPath = some (.obj ms)) ∧ V.at? (jobPath id) = none := by
  rcases lookup_decode hV h id with ⟨hpath, hl⟩ | ⟨⟨ms, hpath⟩, ⟨hj, hl⟩ | ⟨j, s, hj, -, hl⟩⟩
  · rcases hpath with hpath | hpath <;> simp [hl, hpath]
  · simp [hl, hpath, hj]
  · simp [hl, hj]

lemma lookup_eq_found (hV : V.IsCanonical) (h : Report.decode V.tree = .ok r) {id : String}
    {j : Value} (hj : V.at? (jobPath id) = some j) :
    ∃ s, Snapshot.decode j.tree = .ok s ∧ r.lookup id = .found s := by
  rcases lookup_decode hV h id with ⟨hpath, hl⟩ | ⟨-, ⟨hj', hl⟩ | ⟨j', s, hj', hs, hl⟩⟩
  · rw [jobPath, Value.at?_append] at hj
    rcases hpath with hpath | hpath <;> simp [hpath, Value.at?_cons, Value.member?] at hj
  · simp [hj] at hj'
  · obtain rfl : j = j' := Option.some.inj (hj.symm.trans hj')
    exact ⟨s, hs, hl⟩

/-- Documents that agree on whether there is a section, and on what stands under the name of the
job, say the same about it. -/
lemma lookup_congr {V' : Value} {r' : Report} (hV : V.IsCanonical)
    (h : Report.decode V.tree = .ok r) (hV' : V'.IsCanonical)
    (h' : Report.decode V'.tree = .ok r') {id : String}
    (hsection : (∃ ms, V'.at? batchJobsPath = some (.obj ms)) ↔
      ∃ ms, V.at? batchJobsPath = some (.obj ms))
    (hjob : V'.at? (jobPath id) = V.at? (jobPath id)) : r'.lookup id = r.lookup id := by
  rcases hj : V.at? (jobPath id) with _ | j
  · rw [hj] at hjob
    by_cases hpath : ∃ ms, V.at? batchJobsPath = some (.obj ms)
    · rw [(lookup_eq_jobMissing hV h id).2 ⟨hpath, hj⟩,
        (lookup_eq_jobMissing hV' h' id).2 ⟨hsection.2 hpath, hjob⟩]
    · have hnone : ∀ {W : Value} {w : Report}, W.IsCanonical → Report.decode W.tree = .ok w →
          (¬ ∃ ms, W.at? batchJobsPath = some (.obj ms)) → w.lookup id = .noAggregation := by
        intro W w hW hw hno
        rcases lookup_decode hW hw id with ⟨-, hl⟩ | ⟨hyes, -⟩
        · exact hl
        · exact absurd hyes hno
      rw [hnone hV h hpath, hnone hV' h' (mt hsection.1 hpath)]
  · rw [hj] at hjob
    obtain ⟨s, hs, hl⟩ := lookup_eq_found hV h hj
    obtain ⟨s', hs', hl'⟩ := lookup_eq_found hV' h' hjob
    obtain rfl : s = s' := Except.ok.inj (hs.symm.trans hs')
    rw [hl, hl']

/-- **What a report says about a job is what its document says.** There is no section on batch jobs
if its member is absent or null; there is no such job if there is a section, and nothing stands
under the name of the job; and otherwise the job is read of what stands there. So documents that
agree on these two say the same. -/
theorem lookup_of_document {bs : List UInt8} {r : Report} (h : Report.ofBytes bs = .ok r)
    (id : String) :
    ∃ V, valueOfBytes bs = .ok V ∧
      (r.lookup id = .noAggregation ↔
        V.at? ["aggregated", "batchJobs"] = none ∨
          V.at? ["aggregated", "batchJobs"] = some .null) ∧
      (r.lookup id = .jobMissing ↔
        (∃ ms, V.at? ["aggregated", "batchJobs"] = some (.obj ms)) ∧
          V.at? ["aggregated", "batchJobs", "jobs", id] = none) ∧
      (∀ j, V.at? ["aggregated", "batchJobs", "jobs", id] = some j →
        ∃ s, Snapshot.decode j.tree = .ok s ∧ r.lookup id = .found s ∧
          s.outcome =
            if j.isSet "failed" then some .failed else if j.isSet "complete" then some .complete
            else none) ∧
      ∀ bs' r' V', Report.ofBytes bs' = .ok r' → valueOfBytes bs' = .ok V' →
        ((∃ ms, V'.at? ["aggregated", "batchJobs"] = some (.obj ms)) ↔
          ∃ ms, V.at? ["aggregated", "batchJobs"] = some (.obj ms)) →
        V'.at? ["aggregated", "batchJobs", "jobs", id] =
          V.at? ["aggregated", "batchJobs", "jobs", id] →
        r'.lookup id = r.lookup id := by
  obtain ⟨V, hvalue, hV, hdecode⟩ := exists_value h
  refine ⟨V, hvalue, lookup_eq_noAggregation hV hdecode id, lookup_eq_jobMissing hV hdecode id,
    ?_, ?_⟩
  · intro j hj
    obtain ⟨s, hs, hl⟩ := lookup_eq_found hV hdecode hj
    exact ⟨s, hs, hl, Snapshot.outcome_decode hs⟩
  · intro bs' r' V' h' hvalue' hsection hjob
    obtain ⟨W, hW, hV', hdecode'⟩ := exists_value h'
    obtain rfl : W = V' := Except.ok.inj (hW.symm.trans hvalue')
    exact lookup_congr hV hdecode hV' hdecode' hsection hjob

/-- A job whose name is written twice, the second time with an escape: the later job counts. -/
def renamedDocument : List UInt8 :=
  Utf8.encode ("\x7b\"aggregated\":\x7b\"batchJobs\":\x7b\"jobs\":\x7b" ++
    "\"a\":\x7b\"failed\":true\x7d,\"\\u0061\":\x7b\"complete\":true\x7d" ++
    "\x7d\x7d\x7d\x7d").toList

theorem lookup_of_document_renamed :
    ∃ r s, Report.ofBytes renamedDocument = .ok r ∧ r.lookup "a" = .found s ∧
      s.outcome = some .complete ∧ r.lookup "b" = .jobMissing := by
  have hreport : (Report.ofBytes renamedDocument).isOk = true := by decide +kernel
  have hvalue : ((valueOfBytes renamedDocument).toOption.elim false fun V =>
      (V.at? ["aggregated", "batchJobs", "jobs", "a"]).any (fun j =>
        !j.isSet "failed" && j.isSet "complete") &&
      (V.at? (["aggregated", "batchJobs"] ++ ["jobs"])).isSome &&
      (V.at? ["aggregated", "batchJobs", "jobs", "b"]).isNone) = true := by
    decide +kernel
  rcases h : Report.ofBytes renamedDocument with f | r
  · simp [h, Except.isOk, Except.toBool] at hreport
  obtain ⟨V, hV, -, -, hfound, -⟩ := lookup_of_document h "a"
  obtain ⟨W, hW, -, hmissing, -, -⟩ := lookup_of_document h "b"
  obtain rfl : V = W := Except.ok.inj (hV.symm.trans hW)
  rw [hV] at hvalue
  simp only [Except.toOption, Option.elim, Bool.and_eq_true, Option.any_eq_true,
    Bool.not_eq_true', Option.isNone_iff_eq_none, Option.isSome_iff_exists,
    Value.at?_append V ["aggregated", "batchJobs"], Option.bind_eq_some_iff] at hvalue
  obtain ⟨⟨⟨j, hj, hfailed, hcomplete⟩, w, b, hb, hw⟩, hnone⟩ := hvalue
  obtain ⟨s, -, hlookup, houtcome⟩ := hfound j hj
  have hsection : ∃ ms, V.at? ["aggregated", "batchJobs"] = some (.obj ms) := by
    cases b with
    | obj ms => exact ⟨ms, hb⟩
    | _ => cases hw
  refine ⟨r, s, rfl, hlookup, ?_, hmissing.2 ⟨hsection, hnone⟩⟩
  rw [houtcome, hfailed, hcomplete]
  rfl

end Report

end JobWatch
