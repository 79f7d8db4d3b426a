import FirstSeen.Proofs.Aggregate.Calls
import FirstSeen.Proofs.Outcome.CodedText

/-!
Where an outcome says that it comes from. Every error names its source, or has none: a cause the
cause below it, a fault its nearest cause, a combined error its first fault, a partial result the
combined error; a failure hands on what the error in it says and is no link of its own. Following
the sources of an outcome thus leads to the fault that was recorded first and down its causes,
however deep they go. The causes of all other faults play no part, so faults that come later in a
run may be exchanged for others of the same text.
-/
namespace FirstSeen

namespace Link

inductive Follows : Link → List String → Prop
  | last {l : Link} (h : l.source? = none) : Follows l []
  | next {l m : Link} {texts : List String} (h : l.source? = some m) (rest : Follows m texts) :
    Follows l (m.text :: texts)

variable {l m : Link} {texts texts' : List String}

theorem Follows.unique (h : Follows l texts) (h' : Follows l texts') : texts = texts' := by
  induction h generalizing texts' with
  | last hnone =>
    cases h' with
    | last _ => rfl
    | next hsome _ => exact absurd (hnone.symm.trans hsome) nofun
  | next hsome _ ih =>
    cases h' with
    | last hnone => exact absurd (hnone.symm.trans hsome) nofun
    | next hsome' rest' =>
      obtain rfl := Option.some.inj (hsome.symm.trans hsome')
      rw [ih rest']

theorem follows_causes {causes : List Cause} (h : l.source? = ofCauses? causes) :
    Follows l (causes.map Cause.text) := by
  induction causes generalizing l with
  | nil => exact .last h
  | cons c deeper ih => exact .next h (ih rfl)

theorem follows_fault (f : Fault) : Follows (.fault f) f.chain := follows_causes rfl

theorem follows_combined (c : Combined) : Follows (.combined c) c.chain :=
  .next (m := .fault c.first) rfl (follows_fault c.first)

theorem follows_failure (f : Failure) : Follows (.failure f) f.chain := by
  cases f with
  | failed errors => exact .next (m := .fault errors.first) rfl (follows_fault errors.first)
  | partially result => exact .next (m := .combined result.source) rfl (follows_combined _)

theorem follows_combined_iff {c : Combined} : Follows (.combined c) texts ↔ texts = c.chain :=
  ⟨fun h => h.unique (follows_combined c), fun h => h ▸ follows_combined c⟩

theorem follows_failure_iff {f : Failure} : Follows (.failure f) texts ↔ texts = f.chain :=
  ⟨fun h => h.unique (follows_failure f), fun h => h ▸ follows_failure f⟩

end Link

theorem Combined.first_eq_iff {c : Combined} {f : Fault} :
    c.first = f ↔ c.faults.head? = some f :=
  List.head_eq_iff_head?_eq_some c.nonempty

namespace Failure

variable {c c' : Combined}

theorem chain_classify (c : Combined) (successes : UInt64) : (classify c successes).chain =
    (if (classify c successes).isPartial then [c.text] else []) ++ c.chain := by
  unfold classify
  split <;> rfl

theorem chain_classify_congr (hfirst : c.first = c'.first) (htexts : c.texts = c'.texts)
    (successes : UInt64) : (classify c successes).chain = (classify c' successes).chain := by
  have hchain : c.chain = c'.chain := by rw [Combined.chain, Combined.chain, hfirst]
  have htext : c.text = c'.text := congrArg "\n".intercalate htexts
  unfold classify
  split
  · exact hchain
  · exact congrArg₂ List.cons htext hchain

end Failure

namespace Aggregate

open FirstSeen.Unique

variable {α : Type}

/-- The calls bring the same, apart from the tags and the causes of a fault, and from what is
reported along with it. -/
structure Call.Resembles (call call' : Call α) : Prop where
  text : call.fault?.map Fault.text = call'.fault?.map Fault.text
  isSuccess : call.isSuccess = call'.isSuccess

namespace Call

variable {calls calls' : List (Call α)}

theorem texts_of_resembles (h : List.Forall₂ Resembles calls calls') :
    (calls.filterMap fault?).map Fault.text = (calls'.filterMap fault?).map Fault.text := by
  rw [List.map_filterMap, List.map_filterMap]
  induction h with
  | nil => rfl
  | cons hcall _ ih => rw [List.filterMap_cons, List.filterMap_cons, hcall.text, ih]

theorem countP_isSuccess_of_resembles (h : List.Forall₂ Resembles calls calls') :
    calls.countP isSuccess = calls'.countP isSuccess := by
  induction h with
  | nil => rfl
  | cons hcall _ ih => rw [List.countP_cons, List.countP_cons, hcall.isSuccess, ih]

end Call

namespace Collector

theorem exists_finish_of_head? {c : Collector} {first : Fault}
    (h : c.recorded.head? = some first) : ∃ errors : Combined, errors.faults = c.recorded ∧
      errors.first = first ∧
      c.finish.reply = .answer (.error (Failure.classify errors c.successCount)) := by
  have hne : c.recorded ≠ [] := by
    intro hnil
    rw [hnil] at h
    exact absurd h nofun
  refine ⟨⟨c.recorded, hne⟩, rfl, Combined.first_eq_iff.2 h, ?_⟩
  rw [finish_reply, Combined.ofList?_of_ne_nil hne]
  rfl

theorem recorded_run_new (sink : Sink) (calls : List (Call α)) :
    ((new sink).run calls).2.recorded =
      fresh Fault.text Keys.empty (calls.filterMap Call.fault?) := by
  rw [run_state, recorded_taking_new, Call.faults_flatMap_reports]

theorem successCount_run_new_word (sink : Sink) (calls : List (Call α)) :
    ((new sink).run calls).2.successCount = UInt64.ofNat (calls.countP Call.isSuccess) := by
  rw [run_state, successCount, findings_taking, ← Call.successes_flatMap_reports]
  exact UInt64.zero_add _

theorem head?_recorded_run_new (sink : Sink) (calls : List (Call α)) :
    ((new sink).run calls).2.recorded.head? = (calls.filterMap Call.fault?).head? := by
  rw [recorded_run_new, head?_fresh_empty]

theorem recordedTexts_run_new (sink : Sink) (calls : List (Call α)) :
    ((new sink).run calls).2.recordedTexts =
      ((calls.filterMap Call.fault?).map Fault.text).eraseDups := by
  rw [recordedTexts, recorded_run_new, map_fresh_empty]

/-- Whatever the sources of an outcome lead to belongs to the fault that was recorded first. -/
theorem chain_finish_run_new (sink : Sink) (calls : List (Call α)) {first : Fault}
    {more : List Fault} (h : ((new sink).run calls).2.recorded = first :: more) :
    ∃ f : Failure, ((new sink).run calls).2.finish.reply = .answer (.error f) ∧
      f.combined.faults = first :: more ∧
      (∀ texts, Link.Follows (.combined f.combined) texts ↔
        texts = first.text :: first.causes.map Cause.text) ∧
      (∀ texts, Link.Follows (.failure f) texts ↔ texts =
        (if f.isPartial then [f.combined.text] else []) ++
          first.text :: first.causes.map Cause.text) ∧
      ∀ (sink' : Sink) (calls' : List (Call α)), List.Forall₂ Call.Resembles calls calls' →
        (calls'.filterMap Call.fault?).head? = some first →
        ∃ f' : Failure, ((new sink').run calls').2.finish.reply = .answer (.error f') ∧
          (∀ texts, Link.Follows (.combined f'.combined) texts ↔
            Link.Follows (.combined f.combined) texts) ∧
          ∀ texts, Link.Follows (.failure f') texts ↔ Link.Follows (.failure f) texts := by
  have hhead : ((new sink).run calls).2.recorded.head? = some first := by
    rw [h]
    rfl
  obtain ⟨errors, hfaults, hfirst, hfinish⟩ := exists_finish_of_head? hhead
  have hchain : errors.chain = first.text :: first.causes.map Cause.text := by
    rw [Combined.chain, hfirst]
    rfl
  refine ⟨_, hfinish, ?_⟩
  simp only [Failure.combined_classify, Link.follows_combined_iff, Link.follows_failure_iff]
  refine ⟨hfaults.trans h, ?_, ?_, ?_⟩
  · intro texts
    rw [hchain]
  · intro texts
    rw [Failure.chain_classify, hchain]
  · intro sink' calls' hcalls hfirstFault
    have hhead' := (head?_recorded_run_new sink' calls').trans hfirstFault
    obtain ⟨errors', hfaults', hfirst', hfinish'⟩ := exists_finish_of_head? hhead'
    have hsame : errors'.first = errors.first := hfirst'.trans hfirst.symm
    have htexts : errors'.texts = errors.texts := by
      have hrecorded := recordedTexts_run_new sink' calls'
      rw [← Call.texts_of_resembles hcalls, ← recordedTexts_run_new sink] at hrecorded
      rw [Combined.texts, Combined.texts, hfaults, hfaults']
      exact hrecorded
    have hsuccesses : ((new sink').run calls').2.successCount =
        ((new sink).run calls).2.successCount := by
      rw [successCount_run_new_word, successCount_run_new_word,
        Call.countP_isSuccess_of_resembles hcalls]
    refine ⟨_, hfinish', ?_⟩
    rw [hsuccesses, Failure.combined_classify]
    constructor
    · intro texts
      rw [Combined.chain, Combined.chain, hsame]
    · intro texts
      rw [Failure.chain_classify_congr hsame htexts]

theorem chain_finish_run_new_exchanged :
    let lost : Fault := ⟨"lost", 1, [⟨"net", 0⟩, ⟨"wire", 0⟩]⟩
    let full : Fault := ⟨"full", 2, [⟨"quota", 0⟩]⟩
    let other (text : String) : Fault := ⟨text, 3, [⟨"other", 0⟩]⟩
    let calls : List (Call ℕ) := [.success, .failure lost "" [], .report (some (other "lost")) "" [],
      .record (.error full) "" []]
    let calls' : List (Call ℕ) := [.record (.ok 5) "" [], .failure lost "" [],
      .failure lost "again" [], .record (.error (other "full")) "" []]
    let run := (new Sink.silent).run calls
    let run' := (new Sink.silent).run calls'
    run.2.recorded = [lost, full] ∧ ∃ f f' : Failure,
      run.2.finish.reply = .answer (.error f) ∧ run'.2.finish.reply = .answer (.error f') ∧
        Link.Follows (.failure f) ["lost\nfull", "lost", "net", "wire"] ∧
        Link.Follows (.failure f') ["lost\nfull", "lost", "net", "wire"] := by
  intro lost full other calls calls' run run'
  have hrecorded : run.2.recorded = [lost, full] := by decide
  obtain ⟨f, hf, -, -, hchain, hexchanged⟩ := chain_finish_run_new Sink.silent calls hrecorded
  have hcalls : List.Forall₂ Call.Resembles calls calls' :=
    .cons ⟨rfl, rfl⟩ (.cons ⟨rfl, rfl⟩ (.cons ⟨rfl, rfl⟩ (.cons ⟨rfl, rfl⟩ .nil)))
  obtain ⟨f', hf', -, hsame⟩ := hexchanged Sink.silent calls' hcalls rfl
  have hreply : run.2.finish.reply =
      .answer (.error (.partially ⟨⟨[lost, full], List.cons_ne_nil _ _⟩⟩)) := by decide
  obtain rfl := Except.error.inj (Reply.answer.inj (hf.symm.trans hreply))
  have hfollows := (hchain _).2 (by decide : ["lost\nfull", "lost", "net", "wire"] = _)
  exact ⟨hrecorded, _, f', hf, hf', hfollows, (hsame _).2 hfollows⟩

end Collector

end Aggregate

end FirstSeen
