import FirstSeen.Log.Filter
import Mathlib.Data.List.Induction
import Mathlib.Data.Prod.Lex
import Mathlib.Data.String.Basic
import Mathlib.Order.WithBot

/-!
What a filter lets through, said of the directives and not of the search among them. Of the rules
that concern an event one decides: none of the others is more specific, and none that stands behind
it is as specific. An event passes if that rule admits its level. So an event's level, its target
and the names of its fields are all that a filter asks about.
-/
namespace FirstSeen.Log

def LastMax {α β : Type} [LinearOrder β] (score : α → β) (xs : List α) (winner : α) : Prop :=
  ∃ before after, xs = before ++ winner :: after ∧
    (∀ x ∈ before, score x ≤ score winner) ∧ ∀ x ∈ after, score x < score winner

namespace LastMax

variable {α β : Type} [LinearOrder β] {score : α → β} {xs : List α} {x winner : α}

theorem le (h : LastMax score xs winner) (hx : x ∈ xs) : score x ≤ score winner := by
  obtain ⟨before, after, rfl, hbefore, hafter⟩ := h
  rcases List.mem_append.1 hx with hx | hx
  · exact hbefore x hx
  · rcases List.mem_cons.1 hx with rfl | hx
    · exact le_rfl
    · exact (hafter x hx).le

theorem concat_self (h : ∀ y ∈ xs, score y ≤ score x) : LastMax score (xs ++ [x]) x :=
  ⟨xs, [], rfl, h, fun _ hy => absurd hy List.not_mem_nil⟩

theorem concat_of_lt (h : LastMax score xs winner) (hx : score x < score winner) :
    LastMax score (xs ++ [x]) winner := by
  obtain ⟨before, after, rfl, hbefore, hafter⟩ := h
  refine ⟨before, after ++ [x], by simp, hbefore, fun y hy => ?_⟩
  rcases List.mem_append.1 hy with hy | hy
  · exact hafter y hy
  · rwa [List.mem_singleton.1 hy]

theorem unique {other : α} (h : LastMax score xs winner) (h' : LastMax score xs other) :
    winner = other := by
  obtain ⟨before, after, rfl, hbefore, hafter⟩ := h
  obtain ⟨before', after', hsplit, hbefore', hafter'⟩ := h'
  -- Of two different places the one behind would have the smaller score and no smaller score.
  rcases List.append_eq_append_iff.1 hsplit with ⟨between, rfl, hrest⟩ | ⟨between, rfl, hrest⟩
  · cases between with
    | nil => exact (List.cons.inj hrest).1
    | cons first rest =>
      obtain ⟨rfl, rfl⟩ := List.cons.inj hrest
      exact absurd (hbefore' winner (by simp)) (hafter other (by simp)).not_ge
  · cases between with
    | nil => exact (List.cons.inj hrest).1.symm
    | cons first rest =>
      obtain ⟨rfl, rfl⟩ := List.cons.inj hrest
      exact absurd (hbefore other (by simp)) (hafter' winner (by simp)).not_ge

end LastMax

namespace EventRule

variable {rules : List EventRule} {r other : EventRule} {target : String} {names : List String}

/-- A longer target comes before a shorter one and before none, then a named field before none; of
two rules that name a field the names decide. -/
def specificity (r : EventRule) : ℕ ×ₗ WithBot String :=
  toLex (r.targetRank, r.field.elim ⊥ fun name => (String.ofList name : WithBot String))

structure Concerns (r : EventRule) (target : String) (names : List String) : Prop where
  target : ∀ start, r.target = some start → start <+: target.toList
  field : ∀ name, r.field = some name → String.ofList name ∈ names

def Decides (rules : List EventRule) (target : String) (names : List String) (r : EventRule) :
    Prop :=
  ∃ before after, rules = before ++ r :: after ∧ r.Concerns target names ∧
    (∀ b ∈ before, b.Concerns target names → b.specificity ≤ r.specificity) ∧
    ∀ a ∈ after, a.Concerns target names → a.specificity < r.specificity

theorem atLeast_iff : r.atLeast other = true ↔ other.specificity ≤ r.specificity := by
  unfold atLeast specificity
  rw [Prod.Lex.toLex_le_toLex]
  split_ifs with h
  · simp only [decide_eq_true_eq]
    omega
  · rw [not_not] at h
    cases r.field <;> cases other.field <;> simp [h]

theorem applies_iff : r.applies target names = true ↔ r.Concerns target names := by
  obtain ⟨start, field, threshold⟩ := r
  constructor
  · intro h
    cases start <;> cases field <;> simp [applies] at h <;> constructor <;> simp [h]
  · rintro ⟨htarget, hfield⟩
    cases start <;> cases field <;> simp_all [applies]

theorem mostSpecific_concat (rules : List EventRule) (r : EventRule) :
    mostSpecific (rules ++ [r]) =
      match mostSpecific rules with
      | none => some r
      | some best => if r.atLeast best then some r else some best := by
  rw [mostSpecific, List.foldl_append]
  rfl

theorem mostSpecific_eq_none_iff : mostSpecific rules = none ↔ rules = [] := by
  induction rules using List.reverseRecOn with
  | nil => simp [mostSpecific]
  | append_singleton rules r ih =>
    rw [mostSpecific_concat]
    cases mostSpecific rules with
    | none => simp
    | some best => by_cases h : r.atLeast best <;> simp [h]

theorem lastMax_of_mostSpecific (h : mostSpecific rules = some r) :
    LastMax specificity rules r := by
  induction rules using List.reverseRecOn generalizing r with
  | nil => exact absurd h nofun
  | append_singleton rules x ih =>
    rw [mostSpecific_concat] at h
    cases hbest : mostSpecific rules with
    | none =>
      rw [hbest] at h
      obtain rfl := Option.some.inj h
      rw [mostSpecific_eq_none_iff.1 hbest]
      exact LastMax.concat_self fun _ hy => absurd hy List.not_mem_nil
    | some best =>
      rw [hbest] at h
      have hmax := ih hbest
      by_cases hx : x.atLeast best = true
      · obtain rfl : x = r := by simpa [hx] using h
        exact LastMax.concat_self fun y hy => (hmax.le hy).trans (atLeast_iff.1 hx)
      · obtain rfl : best = r := by simpa [hx] using h
        exact hmax.concat_of_lt (not_le.1 fun hle => hx (atLeast_iff.2 hle))

theorem mostSpecific_eq_some_iff :
    mostSpecific rules = some r ↔ LastMax specificity rules r := by
  constructor
  · exact lastMax_of_mostSpecific
  · intro h
    cases hbest : mostSpecific rules with
    | none =>
      obtain ⟨before, after, hsplit, -⟩ := h
      exact absurd ((mostSpecific_eq_none_iff.1 hbest).symm.trans hsplit) (by simp)
    | some best => rw [(lastMax_of_mostSpecific hbest).unique h]

theorem decides_iff : Decides rules target names r ↔
    LastMax specificity (rules.filter fun x => x.applies target names) r := by
  constructor
  · rintro ⟨before, after, rfl, hr, hbefore, hafter⟩
    refine ⟨before.filter fun x => x.applies target names,
      after.filter fun x => x.applies target names, by simp [applies_iff.2 hr], ?_, ?_⟩
    · intro b hb
      obtain ⟨hb, happlies⟩ := List.mem_filter.1 hb
      exact hbefore b hb (applies_iff.1 happlies)
    · intro a ha
      obtain ⟨ha, happlies⟩ := List.mem_filter.1 ha
      exact hafter a ha (applies_iff.1 happlies)
  · rintro ⟨before, after, hsplit, hbefore, hafter⟩
    obtain ⟨before', rest, rfl, rfl, hrest⟩ := List.filter_eq_append_iff.1 hsplit
    obtain ⟨skipped, after', rfl, hskipped, hr, rfl⟩ := List.filter_eq_cons_iff.1 hrest
    refine ⟨before' ++ skipped, after', by simp, applies_iff.1 hr, ?_, ?_⟩
    · intro b hb hconcerns
      rcases List.mem_append.1 hb with hb | hb
      · exact hbefore b (List.mem_filter.2 ⟨hb, applies_iff.2 hconcerns⟩)
      · exact absurd (applies_iff.2 hconcerns) (hskipped b hb)
    · intro a ha hconcerns
      exact hafter a (List.mem_filter.2 ⟨ha, applies_iff.2 hconcerns⟩)

end EventRule

namespace Filter

variable {f : Filter} {text : String} {directives : List Directive}

/-- A filter text is read as a whole and lets through the events of this level, of this target and
with fields of these names. -/
def Passes (text : String) (level : Level) (target : String) (names : List String) : Prop :=
  ∃ directives rule, Directive.readAll text.toList = some directives ∧
    EventRule.Decides (ofDirectives directives).rules target names rule ∧
    level.verbosity ≤ rule.threshold.verbosity

theorem decisive_eq_some_iff {e : Event} {rule : EventRule} :
    f.decisive e = some rule ↔ EventRule.Decides f.rules target e.fieldNames rule := by
  rw [decisive, EventRule.mostSpecific_eq_some_iff, EventRule.decides_iff]

theorem enables_iff {e : Event} : f.enables e = true ↔ ∃ rule,
    EventRule.Decides f.rules target e.fieldNames rule ∧
      e.level.verbosity ≤ rule.threshold.verbosity := by
  simp only [← decisive_eq_some_iff]
  unfold enables
  cases f.decisive e with
  | none => simp
  | some rule => simp [Threshold.admits]

theorem enables_ofText_iff (h : Directive.readAll text.toList = some directives) (e : Event) :
    (ofText text).enables e = true ↔ Passes text e.level target e.fieldNames := by
  rw [ofText, Directive.readSome_of_readAll h, enables_iff]
  simp [Passes, h]

theorem readAll_filterText (env : Option String) (logging : Logging) :
    ∃ directives, Directive.readAll (filterText env logging).toList = some directives := by
  have hdefault : (Directive.readAll Logging.defaultFilter.toList).isSome = true := by decide
  rw [← Option.isSome_iff_exists]
  simp only [filterText]
  cases h : (env.toList ++ [logging.effectiveFilter]).find? fun text =>
      (Directive.readAll text.toList).isSome with
  | none => exact hdefault
  | some text =>
    have hreadable := List.find?_some h
    exact hreadable

end Filter

end FirstSeen.Log
