import FirstSeen.Proofs.Aggregate.Replies

/-!
Classifying in between. `err` gives at any time what `finish` would give there, says so in one event
of its own, and leaves no trace in what the other calls answer. The outcomes that it gives along a
run develop in one direction: faults are added at the end, an outcome with faults never becomes a
good one, and a partial one never becomes a failure; a failure becomes partial by a success and by
nothing else.
-/
namespace FirstSeen

namespace Outcome

def errors (o : Outcome) : List Fault := (faults? o).getD []

/-- How an outcome may differ from one earlier in the run, with a success in between or without. -/
structure Develops (o later : Outcome) (success : Prop) : Prop where
  errors : o.errors <+: later.errors
  not_ok : o ≠ .ok () → later ≠ .ok ()
  not_failed : o.kind = .partially → later.kind ≠ .failed
  partially : o.kind = .failed → (later.kind = .partially ↔ success)

theorem errors_classify (successes : UInt64) (fs : List Fault) :
    (classify successes (Combined.ofList? fs)).errors = fs := by
  rw [errors, faults?_classify]
  split
  · next h => exact h.symm
  · rfl

theorem classify_eq_ok_iff {successes : UInt64} {fs : List Fault} :
    classify successes (Combined.ofList? fs) = .ok () ↔ fs = [] := by
  rw [← faults?_eq_none_iff, faults?_classify]
  split <;> simp_all

theorem develops_classify {m n : UInt64} {fs more : List Fault} {success : Prop}
    (hgrow : m ≠ 0 → n ≠ 0) (hsuccess : m = 0 → (n ≠ 0 ↔ success)) :
    Develops (classify m (Combined.ofList? fs)) (classify n (Combined.ofList? (fs ++ more)))
      success where
  errors := by
    rw [errors_classify, errors_classify]
    exact List.prefix_append fs more
  not_ok h hlater := h (classify_eq_ok_iff.2 (List.append_eq_nil_iff.1
    (classify_eq_ok_iff.1 hlater)).1)
  not_failed := by
    rw [kind_classify, kind_classify]
    split_ifs <;> simp_all
  partially := by
    rw [kind_classify, kind_classify]
    split_ifs <;> simp_all

end Outcome

theorem Combined.size_ofList? (fs : List Fault) :
    ((Combined.ofList? fs).map Combined.size).getD 0 = fs.length := by
  by_cases h : fs = []
  · rw [Combined.ofList?_eq_none_iff.2 h, h]
    rfl
  · rw [Combined.ofList?_of_ne_nil h]
    rfl

namespace Aggregate

open FirstSeen.Unique

variable {α : Type}

def Call.isErr : Call α → Bool
  | .err => true
  | _ => false

structure Trace.Announces (t : Trace Outcome) (c : Collector) (o : Outcome) : Prop where
  reply : t.reply = .answer o
  event : ∃ e, t.events = [e] ∧ e.level = .debug ∧ e.message = "aggregated outcome" ∧
    e.fields = [("successes", toString c.successCount.toNat),
      ("distinct_errors", toString c.faultCount)]
  distinct : c.faultCount = o.errors.length

namespace Collector

def outcome (c : Collector) : Outcome :=
  Outcome.classify c.successCount (Combined.ofList? c.recorded)

theorem announces_finish (c : Collector) : c.finish.Announces c c.outcome where
  reply := finish_reply c
  event := by
    have hsize : ((c.findings.faults.intoErr).map Combined.size).getD 0 = c.faultCount :=
      (Combined.size_ofList? c.recorded).trans c.faultCount_eq.symm
    refine ⟨.outcome c.successCount c.faultCount, ?_, rfl, rfl, rfl⟩
    rw [finish, classified, hsize]
    rfl
  distinct := by rw [outcome, Outcome.errors_classify, faultCount_eq]

theorem err_eq_finish (c : Collector) : c.err.1 = c.finish := rfl

theorem outcome_develops (sink : Sink) {earlier between : List (Call α)}
    (h : (earlier ++ between).countP Call.isSuccess < UInt64.size) :
    Outcome.Develops ((new sink).run earlier).2.outcome
      ((new sink).run (earlier ++ between)).2.outcome (∃ call ∈ between, call.isSuccess) := by
  have hsum : (earlier ++ between).countP Call.isSuccess =
      earlier.countP Call.isSuccess + between.countP Call.isSuccess := List.countP_append
  have hm : ((new sink).run earlier).2.successCount = 0 ↔ earlier.countP Call.isSuccess = 0 :=
    successCount_run_new_eq_zero_iff (by omega)
  have hn : ((new sink).run (earlier ++ between)).2.successCount = 0 ↔
      (earlier ++ between).countP Call.isSuccess = 0 := successCount_run_new_eq_zero_iff h
  have hbetween : (∃ call ∈ between, call.isSuccess) ↔ 0 < between.countP Call.isSuccess :=
    List.countP_pos_iff.symm
  have hrecorded := recorded_run ((new sink).run earlier).2 between
  rw [run_append] at hn
  -- The counter does not wrap around, so it is zero only as long as there was no success.
  rw [outcome, outcome, run_append, hrecorded]
  apply Outcome.develops_classify
  · rw [Ne, Ne, hm, hn]
    omega
  · rw [Ne, hm, hn, hbetween]
    omega

theorem run_filter_isErr (c : Collector) (calls : List (Call α)) :
    let kept := calls.filter fun call => !call.isErr
    ((calls.zip (c.run calls).1).filter fun p => !p.1.isErr) = kept.zip (c.run kept).1 ∧
      (c.run kept).2 = (c.run calls).2 := by
  induction calls generalizing c with
  | nil => exact ⟨rfl, rfl⟩
  | cons call rest ih =>
    obtain ⟨htraces, hstate⟩ := ih (c.step call).2
    by_cases h : call.isErr = true
    · cases call with
      | err =>
        exact ⟨htraces, hstate⟩
      | _ => exact absurd h nofun
    · rw [List.filter_cons_of_pos (by simpa using h)]
      refine ⟨?_, hstate⟩
      change List.filter _ ((call, _) :: rest.zip ((c.step call).2.run rest).1) = _
      rw [List.filter_cons_of_pos (by simpa using h), htraces]
      rfl

/-- `err` is a preview of `finish` that does not disturb the run, and outcomes only develop. -/
theorem run_new_preview (sink : Sink) (calls : List (Call α))
    (hcount : calls.countP Call.isSuccess < UInt64.size) :
    let run := (new sink).run calls
    let kept := calls.filter fun call => !call.isErr
    (((calls.zip run.1).filter fun p => !p.1.isErr) = kept.zip ((new sink).run kept).1 ∧
      ((new sink).run kept).2.finish = run.2.finish) ∧
    (∀ earlier later, calls = earlier ++ later →
      let c := ((new sink).run earlier).2
      c.err.1.reply = c.finish.reply ∧ ∃ o, c.err.1.Announces c o ∧ c.finish.Announces c o) ∧
    (∀ earlier later, calls = earlier ++ .err :: later →
      run.1[earlier.length]? = some (((new sink).run earlier).2.err.1.map .outcome)) ∧
    ∀ earlier between later, calls = earlier ++ between ++ later → ∃ o o',
      ((new sink).run earlier).2.finish.reply = .answer o ∧
      ((new sink).run (earlier ++ between)).2.finish.reply = .answer o' ∧
      o.Develops o' (∃ call ∈ between, call.isSuccess) := by
  intro run kept
  obtain ⟨htraces, hstate⟩ := run_filter_isErr (new sink) calls
  refine ⟨⟨htraces, congrArg finish hstate⟩, ?_, ?_, ?_⟩
  · intro earlier later _ c
    exact ⟨congrArg Trace.reply c.err_eq_finish, c.outcome,
      c.err_eq_finish ▸ c.announces_finish, c.announces_finish⟩
  · rintro earlier later rfl
    exact run_getElem? _ earlier later .err
  · rintro earlier between later rfl
    rw [List.countP_append] at hcount
    exact ⟨_, _, finish_reply _, finish_reply _, outcome_develops sink (by omega)⟩

theorem run_new_preview_six_calls :
    let lost : Fault := ⟨"lost", 1, []⟩
    let full : Fault := ⟨"full", 2, [⟨"disk", 0⟩]⟩
    let c := new ⟨fun _ => [], fun _ _ => true⟩
    let early : List (Call ℕ) := [.err, .failure lost "" []]
    let late : List (Call ℕ) := [.err, .success, .record (.error full) "" [], .err]
    let kept : List (Call ℕ) := [.failure lost "" [], .success, .record (.error full) "" []]
    (early ++ late).countP Call.isSuccess < UInt64.size ∧
      (c.run kept).2.finish = (c.run (early ++ late)).2.finish ∧
      (c.run (early ++ late)).1[2]? = some ((c.run early).2.err.1.map .outcome) ∧
      (c.run early).2.outcome.kind = .failed ∧ (c.run early).2.outcome.errors = [lost] ∧
      (c.run (early ++ late)).2.outcome.kind = .partially ∧
      (c.run early).2.outcome.errors <+: (c.run (early ++ late)).2.outcome.errors := by
  intro lost full c early late kept
  have hcount : (early ++ late).countP Call.isSuccess < UInt64.size := by decide
  obtain ⟨⟨-, hfinish⟩, -, herr, hdevelops⟩ := run_new_preview c.sink (early ++ late) hcount
  obtain ⟨o, o', ho, ho', h⟩ := hdevelops early late [] (List.append_nil _).symm
  obtain rfl : o = (c.run early).2.outcome := Reply.answer.inj ho.symm
  obtain rfl : o' = (c.run (early ++ late)).2.outcome := Reply.answer.inj ho'.symm
  have hfailed : (c.run early).2.outcome.kind = .failed := rfl
  have hsuccess : ∃ call ∈ late, call.isSuccess = true := ⟨.success, by simp [late], rfl⟩
  exact ⟨hcount, hfinish, herr early (late.drop 1) rfl, hfailed, rfl,
    (h.partially hfailed).2 hsuccess, h.errors⟩

end Collector

end Aggregate

end FirstSeen
