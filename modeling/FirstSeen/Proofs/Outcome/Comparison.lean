import FirstSeen.Proofs.Aggregate.Calls

/-!
When two outcomes are the same. A failure is known by its kind and its combined error, a combined
error by its faults in their order, and a fault by its text, its tag and its nearest cause, which is
known in the same way, down to the deepest one. Two runs therefore finish alike when they recorded
the same faults and, if they recorded any, both or neither had a success beside them. Nothing else
shows in an outcome: not how many successes there were, not what the sink did, and not a fault that
was left out because its text had been recorded before.
-/
namespace FirstSeen

namespace Fault

variable {f g : Fault}

def cause? (f : Fault) : Option Fault :=
  match f.causes with
  | [] => none
  | c :: deeper => some ⟨c.text, c.tag, deeper⟩

inductive Same : Fault → Fault → Prop
  | deepest {f g : Fault} (htext : f.text = g.text) (htag : f.tag = g.tag)
      (hf : f.cause? = none) (hg : g.cause? = none) : Same f g
  | caused {f g f' g' : Fault} (htext : f.text = g.text) (htag : f.tag = g.tag)
      (hf : f.cause? = some f') (hg : g.cause? = some g') (below : Same f' g') : Same f g

theorem cause?_inj : f.cause? = g.cause? ↔ f.causes = g.causes := by
  obtain ⟨_, _, causes⟩ := f
  obtain ⟨_, _, causes'⟩ := g
  cases causes with
  | nil => cases causes' <;> simp [cause?]
  | cons c deeper =>
    cases causes' with
    | nil => simp [cause?]
    | cons c' deeper' =>
      obtain ⟨text, tag⟩ := c
      obtain ⟨text', tag'⟩ := c'
      simp [cause?, and_assoc]

theorem eq_iff : f = g ↔ f.text = g.text ∧ f.tag = g.tag ∧ f.cause? = g.cause? := by
  rw [cause?_inj]
  obtain ⟨text, tag, causes⟩ := f
  obtain ⟨text', tag', causes'⟩ := g
  rw [Fault.mk.injEq]

theorem Same.eq (h : Same f g) : f = g := by
  induction h with
  | deepest htext htag hf hg => exact eq_iff.2 ⟨htext, htag, hf.trans hg.symm⟩
  | caused htext htag hf hg _ ih => exact eq_iff.2 ⟨htext, htag, by rw [hf, hg, ih]⟩

theorem Same.refl (f : Fault) : Same f f := by
  obtain ⟨text, tag, causes⟩ := f
  induction causes generalizing text tag with
  | nil => exact .deepest rfl rfl rfl rfl
  | cons c deeper ih => exact .caused rfl rfl rfl rfl (ih c.text c.tag)

theorem same_iff_eq : Same f g ↔ f = g :=
  ⟨Same.eq, fun h => h ▸ Same.refl f⟩

theorem forall₂_same_iff_eq {fs gs : List Fault} : List.Forall₂ Same fs gs ↔ fs = gs := by
  have hsame : Same = fun f g => f = g := by
    funext f g
    exact propext same_iff_eq
  rw [hsame, List.forall₂_eq_eq_eq]

end Fault

theorem Combined.ofList?_inj {fs gs : List Fault} : ofList? fs = ofList? gs ↔ fs = gs := by
  refine ⟨fun h => ?_, congrArg ofList?⟩
  by_cases hfs : fs = []
  · rw [ofList?_eq_none_iff.2 hfs] at h
    rw [hfs, ofList?_eq_none_iff.1 h.symm]
  · rw [ofList?_of_ne_nil hfs] at h
    exact ofList?_eq_some_iff.1 h.symm

namespace Failure

variable {c d : Combined} {m n : UInt64}

theorem eq_iff {f g : Failure} : f = g ↔ f.isPartial = g.isPartial ∧ f.combined = g.combined := by
  cases f with
  | failed errors => cases g <;> simp [isPartial, combined]
  | partially result =>
    cases g with
    | failed errors => simp [isPartial]
    | partially result' =>
      obtain ⟨errors⟩ := result
      obtain ⟨errors'⟩ := result'
      simp [isPartial, combined]

theorem classify_inj : classify c m = classify d n ↔ c = d ∧ (m = 0 ↔ n = 0) := by
  rw [eq_iff, combined_classify, combined_classify, Bool.eq_iff_iff, isPartial_classify,
    isPartial_classify, not_iff_not, and_comm]

theorem ofPartial_eq_classify_iff : ofPartial ⟨c⟩ = classify c n ↔ 0 < n := by
  have hpartial : (ofPartial ⟨c⟩).isPartial = (classify c n).isPartial ↔ n ≠ 0 := by
    rw [← isPartial_classify c n]
    exact eq_comm
  have hcombined : (ofPartial ⟨c⟩).combined = (classify c n).combined := (combined_classify c n).symm
  rw [eq_iff, hpartial, and_iff_left hcombined, UInt64.pos_iff_ne_zero]

end Failure

namespace Outcome

variable {m n : UInt64} {fs gs : List Fault}

def error? : Outcome → Option Failure
  | .ok () => none
  | .error failure => some failure

theorem map_combined_error?_classify (m : UInt64) (fs : List Fault) :
    (classify m (Combined.ofList? fs)).error?.map Failure.combined = Combined.ofList? fs := by
  cases Combined.ofList? fs with
  | none => rfl
  | some c => exact congrArg some (Failure.combined_classify c m)

theorem map_combined_inj : (classify m (Combined.ofList? fs)).error?.map Failure.combined =
    (classify n (Combined.ofList? gs)).error?.map Failure.combined ↔ fs = gs := by
  rw [map_combined_error?_classify, map_combined_error?_classify, Combined.ofList?_inj]

theorem classify_inj : classify m (Combined.ofList? fs) = classify n (Combined.ofList? gs) ↔
    fs = gs ∧ (fs ≠ [] → (m = 0 ↔ n = 0)) := by
  constructor
  · intro h
    obtain rfl : fs = gs := map_combined_inj.1 (congrArg (fun o => o.error?.map Failure.combined) h)
    refine ⟨rfl, fun hne => ?_⟩
    rw [Combined.ofList?_of_ne_nil hne] at h
    exact (Failure.classify_inj.1 (Except.error.inj h)).2
  · rintro ⟨rfl, h⟩
    by_cases hfs : fs = []
    · rw [Combined.ofList?_eq_none_iff.2 hfs]
      rfl
    · rw [Combined.ofList?_of_ne_nil hfs]
      exact congrArg Except.error (Failure.classify_inj.2 ⟨rfl, h hfs⟩)

end Outcome

namespace Aggregate

variable {α β : Type}

namespace Collector

theorem successCount_run_new_ne_zero {sink : Sink} {calls : List (Call α)}
    (h : calls.countP Call.isSuccess < UInt64.size) :
    ((new sink).run calls).2.successCount ≠ 0 ↔ ∃ call ∈ calls, call.isSuccess := by
  rw [Ne, successCount_run_new_eq_zero_iff h, ← Ne, ← Nat.pos_iff_ne_zero, List.countP_pos_iff]

/-- Outcomes are compared by what was recorded, and by whether there was a success beside it. -/
theorem finish_run_new_eq_iff (sink sink' : Sink) (calls : List (Call α))
    (calls' : List (Call β)) (hcount : calls.countP Call.isSuccess < UInt64.size)
    (hcount' : calls'.countP Call.isSuccess < UInt64.size) :
    let c := ((new sink).run calls).2
    let c' := ((new sink').run calls').2
    let sameRecord := List.Forall₂ Fault.Same c.recorded c'.recorded
    (∃ o o' : Outcome, c.finish.reply = .answer o ∧ c'.finish.reply = .answer o' ∧
      (o = o' ↔ sameRecord ∧ (c.recorded ≠ [] →
        ((∃ call ∈ calls, call.isSuccess) ↔ ∃ call ∈ calls', call.isSuccess))) ∧
      (o.error?.map Failure.combined = o'.error?.map Failure.combined ↔ sameRecord) ∧
      (o.error?.map Failure.intoCombined = o'.error?.map Failure.intoCombined ↔ sameRecord)) ∧
    ∀ fs : List Fault, fs ≠ [] → ∃ errors, Combined.ofList? fs = some errors ∧
      errors.faults = fs ∧ ∀ successes : UInt64,
        (Failure.classify errors successes).intoCombined = errors ∧
        (Failure.ofPartial ⟨errors⟩ = Failure.classify errors successes ↔ 0 < successes) := by
  intro c c' sameRecord
  have hrecord : sameRecord ↔ c.recorded = c'.recorded := Fault.forall₂_same_iff_eq
  have hinto : Failure.intoCombined = Failure.combined := funext Failure.intoCombined_eq_combined
  refine ⟨⟨_, _, finish_reply c, finish_reply c', ?_, ?_, ?_⟩, ?_⟩
  · rw [Outcome.classify_inj, hrecord, ← successCount_run_new_ne_zero hcount,
      ← successCount_run_new_ne_zero hcount', not_iff_not]
  · rw [Outcome.map_combined_inj, hrecord]
  · rw [hinto, Outcome.map_combined_inj, hrecord]
  · intro fs hne
    refine ⟨⟨fs, hne⟩, Combined.ofList?_of_ne_nil hne, rfl, fun successes => ⟨?_, ?_⟩⟩
    · rw [Failure.intoCombined_eq_combined, Failure.combined_classify]
    · exact Failure.ofPartial_eq_classify_iff

theorem finish_run_new_eq_iff_four_runs :
    let lost : Fault := ⟨"lost", 1, [⟨"net", 0⟩, ⟨"wire", 0⟩]⟩
    let cut : Fault := ⟨"lost", 1, [⟨"net", 0⟩, ⟨"wire", 9⟩]⟩
    let calls : List (Call ℕ) := [.success, .failure lost "" [], .failure cut "" []]
    let calls' : List (Call ℕ) := [.failure lost "again" [], .record (.ok 5) "" [], .success]
    let deeper : List (Call ℕ) := [.success, .failure cut "" [], .failure lost "" []]
    let vain : List (Call ℕ) := [.report (some lost) "" [], .err]
    let finish (calls : List (Call ℕ)) := ((new Sink.silent).run calls).2.finish.reply
    let finish' := ((new ⟨fun _ => [], fun _ _ => true⟩).run calls').2.finish.reply
    (∃ o, finish calls = .answer o ∧ finish' = .answer o) ∧
      (∃ o o', finish calls = .answer o ∧ finish deeper = .answer o' ∧ o ≠ o' ∧
        o.error?.map Failure.combined ≠ o'.error?.map Failure.combined) ∧
      (∃ o o', finish calls = .answer o ∧ finish vain = .answer o' ∧ o ≠ o' ∧
        o.error?.map Failure.intoCombined = o'.error?.map Failure.intoCombined) ∧
      [lost, cut] ≠ [] ∧ ∃ errors, Combined.ofList? [lost, cut] = some errors ∧
        Failure.ofPartial ⟨errors⟩ = Failure.classify errors 1 ∧
        Failure.ofPartial ⟨errors⟩ ≠ Failure.classify errors 0 := by
  intro lost cut calls calls' deeper vain finish finish'
  have hsame : List.Forall₂ Fault.Same [lost] [lost] := Fault.forall₂_same_iff_eq.2 rfl
  have hother : ¬ List.Forall₂ Fault.Same [lost] [cut] := by
    rw [Fault.forall₂_same_iff_eq]
    decide
  obtain ⟨⟨o, o', ho, ho', heq, -, -⟩, hwrapped⟩ :=
    finish_run_new_eq_iff Sink.silent ⟨fun _ => [], fun _ _ => true⟩ calls calls'
      (by decide) (by decide)
  obtain ⟨⟨p, p', hp, hp', hne, hcombined, -⟩, -⟩ :=
    finish_run_new_eq_iff Sink.silent Sink.silent calls deeper (by decide) (by decide)
  obtain ⟨⟨q, q', hq, hq', hvain, -, hinto⟩, -⟩ :=
    finish_run_new_eq_iff Sink.silent Sink.silent calls vain (by decide) (by decide)
  obtain ⟨errors, herrors, -, hsuccesses⟩ := hwrapped [lost, cut] (List.cons_ne_nil _ _)
  refine ⟨⟨o, ho, ?_⟩, ⟨p, p', hp, hp', ?_, ?_⟩, ⟨q, q', hq, hq', ?_, ?_⟩, List.cons_ne_nil _ _,
    errors, herrors, (hsuccesses 1).2.2 (by decide), fun h => ?_⟩
  · obtain rfl : o = o' := heq.2 ⟨hsame, fun _ => by decide⟩
    exact ho'
  · exact fun h => hother (hne.1 h).1
  · exact fun h => hother (hcombined.1 h)
  · intro h
    exact absurd ((hvain.1 h).2 (by decide)) (by decide)
  · exact hinto.2 hsame
  · exact absurd ((hsuccesses 0).2.1 h) (by decide)

end Collector

end Aggregate

end FirstSeen
