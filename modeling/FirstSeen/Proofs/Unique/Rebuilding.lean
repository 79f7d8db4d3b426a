import FirstSeen.Proofs.Unique.CallHistory
import FirstSeen.Proofs.Unique.Fresh
import FirstSeen.Unique.FaultSet

/-!
Sets of faults over whole runs, and how to make one again from its combined error. A set remembers
the texts it has seen apart from the faults that it holds, and only the faults can be read. Nothing
is lost with the texts: after every run they are the texts of the faults that are held. So a set
that takes in the faults of a combined error, one after the other, takes in all of them, and from
then on it cannot be told from the set that the error came from.
-/
namespace FirstSeen.Unique.FaultSet

inductive Call where
  | add (fault : Option Fault)
  | insert (fault : Fault)
  | err

inductive Reply where
  | isNew (b : Bool)
  | errors (c : Option Combined)
  deriving DecidableEq

def Call.fault? : Call → Option Fault
  | .add fault => fault
  | .insert fault => some fault
  | .err => none

def step (s : FaultSet) : Call → Reply × FaultSet
  | .add fault => (s.add fault).map .isNew id
  | .insert fault => (s.insert fault).map .isNew id
  | .err => (.errors s.err, s)

def run (s : FaultSet) : List Call → List Reply × FaultSet
  | [] => ([], s)
  | call :: rest => ((s.step call).1 :: ((s.step call).2.run rest).1, ((s.step call).2.run rest).2)

variable {s t : FaultSet}

theorem insert_fst (s : FaultSet) (f : Fault) : (s.insert f).1 = !s.containsKey f.text :=
  Roster.push_fst s f

theorem toList_insert (s : FaultSet) (f : Fault) :
    (s.insert f).2.toList = if s.containsKey f.text then s.toList else s.toList ++ [f] := by
  rw [insert, Roster.toList_push, ← insert, insert_fst]
  cases s.containsKey f.text <;> rfl

theorem containsKey_insert (s : FaultSet) (f : Fault) (text : String) :
    (s.insert f).2.containsKey text = (decide (text = f.text) || s.containsKey text) := by
  rw [Roster.containsKey, insert, Roster.push_seen, Keys.has_insert_eq]
  rfl

theorem insert_of_containsKey {f : Fault} (h : s.containsKey f.text = true) :
    s.insert f = (false, s) := by
  have hseen : s.seen.has f.text = true := h
  simp [insert, Roster.push, KeyProc.ofFun, hseen]

theorem err_eq (s : FaultSet) : s.err = Combined.ofList? s.toList := rfl

theorem step_state (s : FaultSet) (call : Call) :
    (s.step call).2 = s.append call.fault?.toList := by
  cases call with
  | add fault => cases fault <;> rfl
  | insert fault => rfl
  | err => rfl

theorem run_state (s : FaultSet) (calls : List Call) :
    (s.run calls).2 = s.append (calls.filterMap Call.fault?) := by
  induction calls generalizing s with
  | nil => rfl
  | cons call rest ih =>
    have hsplit : (call :: rest).filterMap Call.fault? =
        call.fault?.toList ++ rest.filterMap Call.fault? := by
      cases h : call.fault? <;> simp [h]
    rw [hsplit, Roster.append_append, ← step_state, ← ih]
    rfl

def Keyed (s : FaultSet) : Prop :=
  ∀ text, s.containsKey text = true ↔ text ∈ s.toList.map Fault.text

theorem keyed_empty : empty.Keyed := by
  intro text
  rw [empty, Roster.containsKey, Roster.withKey, Keys.has_empty]
  simp [Roster.toList]

theorem Keyed.insert (h : s.Keyed) (f : Fault) : (s.insert f).2.Keyed := by
  intro text
  rw [containsKey_insert, Bool.or_eq_true, decide_eq_true_eq, toList_insert, h text]
  by_cases hseen : s.containsKey f.text = true
  · rw [if_pos hseen]
    apply or_iff_right_of_imp
    rintro rfl
    exact (h f.text).1 hseen
  · rw [if_neg hseen, List.map_append, List.mem_append, or_comm]
    simp

theorem Keyed.append (h : s.Keyed) (faults : List Fault) : Keyed (s.append faults) := by
  induction faults generalizing s with
  | nil => exact h
  | cons f rest ih => exact ih (h.insert f)

theorem Keyed.run (h : s.Keyed) (calls : List Call) : (s.run calls).2.Keyed := by
  rw [run_state]
  exact h.append _

structure Agrees (s t : FaultSet) : Prop where
  toList : s.toList = t.toList
  containsKey : ∀ text, s.containsKey text = t.containsKey text

namespace Agrees

theorem of_keyed (hs : s.Keyed) (ht : t.Keyed) (h : s.toList = t.toList) : s.Agrees t := by
  refine ⟨h, fun text => ?_⟩
  rw [Bool.eq_iff_iff, hs text, ht text, h]

theorem err (h : s.Agrees t) : s.err = t.err := by
  rw [err_eq, err_eq, h.toList]

theorem insert (h : s.Agrees t) (f : Fault) :
    (s.insert f).1 = (t.insert f).1 ∧ (s.insert f).2.Agrees (t.insert f).2 := by
  refine ⟨?_, ?_, fun text => ?_⟩
  · rw [insert_fst, insert_fst, h.containsKey]
  · rw [toList_insert, toList_insert, h.containsKey, h.toList]
  · rw [containsKey_insert, containsKey_insert, h.containsKey]

theorem step (h : s.Agrees t) (call : Call) :
    (s.step call).1 = (t.step call).1 ∧ (s.step call).2.Agrees (t.step call).2 := by
  cases call with
  | add fault =>
    cases fault with
    | none => exact ⟨rfl, h⟩
    | some f => exact ⟨congrArg Reply.isNew (h.insert f).1, (h.insert f).2⟩
  | insert f => exact ⟨congrArg Reply.isNew (h.insert f).1, (h.insert f).2⟩
  | err => exact ⟨congrArg Reply.errors h.err, h⟩

theorem run (h : s.Agrees t) (calls : List Call) :
    (s.run calls).1 = (t.run calls).1 ∧ (s.run calls).2.Agrees (t.run calls).2 := by
  induction calls generalizing s t with
  | nil => exact ⟨rfl, h⟩
  | cons call rest ih =>
    obtain ⟨hreply, hnext⟩ := h.step call
    obtain ⟨hreplies, hlast⟩ := ih hnext
    exact ⟨congrArg₂ List.cons hreply hreplies, hlast⟩

end Agrees

theorem run_map_insert {faults : List Fault} (hnodup : (faults.map Fault.text).Nodup)
    (hunseen : ∀ f ∈ faults, s.containsKey f.text = false) :
    (s.run (faults.map .insert)).1 = List.replicate faults.length (.isNew true) ∧
      (s.run (faults.map .insert)).2.toList = s.toList ++ faults := by
  induction faults generalizing s with
  | nil => exact ⟨rfl, (List.append_nil _).symm⟩
  | cons f rest ih =>
    rw [List.map_cons, List.nodup_cons] at hnodup
    obtain ⟨hf, hrest⟩ := List.forall_mem_cons.1 hunseen
    have hunseen' : ∀ g ∈ rest, (s.insert f).2.containsKey g.text = false := by
      intro g hg
      have hne : g.text ≠ f.text := fun he => hnodup.1 (he ▸ List.mem_map_of_mem hg)
      rw [containsKey_insert, hrest g hg, Bool.or_false, decide_eq_false hne]
    obtain ⟨hreplies, hlist⟩ := ih hnodup.2 hunseen'
    have hreply : (s.insert f).1 = true := by rw [insert_fst, hf, Bool.not_false]
    constructor
    · rw [List.length_cons, List.replicate_succ, ← hreplies, ← hreply]
      rfl
    · rw [toList_insert, hf, if_neg Bool.false_ne_true, List.append_assoc] at hlist
      exact hlist

theorem toList_run_empty (calls : List Call) : (empty.run calls).2.toList =
    fresh Fault.text Keys.empty (calls.filterMap Call.fault?) := by
  rw [run_state, Roster.toList_append]
  rfl

theorem calls_foldl_ask_ofFun {α κ : Type} (key : α → κ) (account : Account Unit α κ)
    (xs : List α) : (xs.foldl (Account.ask (KeyProc.ofFun key)) account).calls =
      account.calls ++ xs.map fun a => (a, key a) := by
  induction xs generalizing account with
  | nil => exact (List.append_nil _).symm
  | cons a rest ih => simp [ih, Account.ask, KeyProc.ofFun]

theorem toList_run_empty_eq_newcomers (calls : List Call) : (empty.run calls).2.toList =
    newcomers ((calls.filterMap Call.fault?).map fun f => (f, f.text)) := by
  have hempty : Roster.Tallies empty ⟨[], ()⟩ := Roster.Tallies.withKey ()
  have htallies := hempty.append (calls.filterMap Call.fault?)
  rw [run_state]
  exact htallies.toList_eq.trans (congrArg newcomers (calls_foldl_ask_ofFun Fault.text _ _))

/-- After every run the combined error holds the first fault of every text in the order in which
they were given, and a set that takes in its faults goes on as the set that it came from. -/
theorem run_empty_rebuilt (calls : List Call) :
    let s := (empty.run calls).2
    let given := calls.filterMap Call.fault?
    s.step .err = (.errors s.intoErr, s) ∧
      (s.err = none ↔ given = []) ∧
      ∀ c, s.err = some c →
        c.faults = newcomers (given.map fun f => (f, f.text)) ∧ c.faults ≠ [] ∧
        (c.faults.map Fault.text).Nodup ∧
        (∀ f ∈ c.faults, s.insert f = (false, s)) ∧
        (empty.run (c.faults.map .insert)).1 = List.replicate c.size (.isNew true) ∧
        ∀ further, let rebuilt := (empty.run (c.faults.map .insert)).2
          (rebuilt.run further).1 = (s.run further).1 ∧
            (rebuilt.run further).2.err = (s.run further).2.err := by
  intro s given
  have hlist : s.toList = fresh Fault.text Keys.empty given := toList_run_empty calls
  have hkeyed : s.Keyed := keyed_empty.run calls
  refine ⟨rfl, ?_, fun c hc => ?_⟩
  · rw [err_eq, Combined.ofList?_eq_none_iff, hlist, fresh_empty_eq_nil_iff]
  · have hfaults : c.faults = s.toList := Combined.ofList?_eq_some_iff.1 hc
    have hnodup : (c.faults.map Fault.text).Nodup := by
      rw [hfaults, hlist]
      exact nodup_map_fresh
    obtain ⟨hreplies, hrebuilt⟩ :=
      run_map_insert (s := empty) hnodup fun f _ => Keys.has_empty f.text
    refine ⟨hfaults.trans (toList_run_empty_eq_newcomers calls), c.nonempty, hnodup, ?_, hreplies,
      ?_⟩
    · intro f hf
      rw [hfaults] at hf
      exact insert_of_containsKey ((hkeyed f.text).2 (List.mem_map_of_mem hf))
    · intro further rebuilt
      -- Both sets are keyed, so it is enough that they hold the same faults.
      have hsame : rebuilt.toList = s.toList := hrebuilt.trans hfaults
      have hagrees := Agrees.of_keyed (keyed_empty.run _) hkeyed hsame
      exact ⟨(hagrees.run further).1, (hagrees.run further).2.err⟩

theorem run_empty_rebuilt_again :
    let lost : Fault := ⟨"lost", 1, [⟨"net", 0⟩]⟩
    let full : Fault := ⟨"full", 2, []⟩
    let calls : List Call := [.add none, .insert lost, .err, .add (some ⟨"lost", 3, []⟩),
      .add (some full), .insert lost]
    let s := (empty.run calls).2
    let rebuilt := (empty.run [.insert lost, .insert full]).2
    let further : List Call := [.add (some ⟨"full", 5, []⟩), .add (some ⟨"", 0, []⟩), .add none]
    s.err = some ⟨[lost, full], by decide⟩ ∧ s.insert lost = (false, s) ∧
      (rebuilt.run further).1 = (s.run further).1 ∧
      (s.run further).1 = [.isNew false, .isNew true, .isNew false] := by
  intro lost full calls s rebuilt further
  have hsome : s.err = some ⟨[lost, full], by decide⟩ := by decide
  obtain ⟨-, -, -, hagain, -, hfurther⟩ := (run_empty_rebuilt calls).2.2 _ hsome
  exact ⟨hsome, hagain lost List.mem_cons_self, (hfurther further).1, by decide⟩

end FirstSeen.Unique.FaultSet
