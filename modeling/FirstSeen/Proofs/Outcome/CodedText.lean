import FirstSeen.Outcome
import FirstSeen.Text.Pieces

/-!
What the text of an outcome tells. The texts of a combined error stand one below the other, so when
none of them has lines of its own they are the lines of the whole. In front of a partial result
stands a phrase that a fault may imitate, which is why the plain text does not tell a partial result
from a failure; the code in front of it all does. So the coded text determines which of the two it
was and all texts in their order.
-/
namespace FirstSeen

namespace Combined

def texts (c : Combined) : List String := c.faults.map Fault.text

def OneLined (c : Combined) : Prop := ∀ t ∈ c.texts, '\n' ∉ t.toList

instance (c : Combined) : Decidable c.OneLined :=
  inferInstanceAs (Decidable (∀ t ∈ c.texts, '\n' ∉ t.toList))

theorem texts_ne_nil (c : Combined) : c.texts ≠ [] := by
  simpa [texts] using c.nonempty

theorem lines_text {c : Combined} (h : c.OneLined) : Text.lines c.text = c.texts :=
  Text.lines_intercalate c.texts_ne_nil h

theorem text_inj {c c' : Combined} (h : c.OneLined) (h' : c'.OneLined) :
    c.text = c'.text ↔ c.texts = c'.texts := by
  constructor
  · intro heq
    rw [← lines_text h, ← lines_text h', heq]
  · exact congrArg "\n".intercalate

end Combined

theorem Code.label_inj {code code' : Code} {t t' : String} :
    code.label t = code'.label t' ↔ code = code' ∧ t = t' := by
  constructor
  · intro h
    have hcode : code = code' := by
      have hchars := congrArg String.toList h
      cases code <;> cases code' <;> simp [label, Code.text] at hchars ⊢
    subst hcode
    exact ⟨rfl, (String.append_right_inj _).1 h⟩
  · rintro ⟨rfl, rfl⟩
    rfl

namespace Failure

theorem code_eq_iff {f g : Failure} : f.code = g.code ↔ f.isPartial = g.isPartial := by
  cases f <;> cases g <;> simp [code, Combined.code, PartialResult.code, isPartial]

theorem text_inj_of_isPartial {f g : Failure} (h : f.isPartial = g.isPartial) :
    f.text = g.text ↔ f.combined.text = g.combined.text := by
  cases f with
  | failed errors =>
    cases g with
    | failed errors' => exact Iff.rfl
    | partially result => exact absurd h Bool.false_ne_true
  | partially result =>
    cases g with
    | failed errors => exact absurd h.symm Bool.false_ne_true
    | partially result' => exact String.append_right_inj _

theorem coded_inj {f g : Failure} (hf : f.combined.OneLined) (hg : g.combined.OneLined) :
    f.coded = g.coded ↔ f.isPartial = g.isPartial ∧ f.combined.texts = g.combined.texts := by
  rw [coded, coded, Code.label_inj, code_eq_iff]
  refine and_congr_right fun h => ?_
  rw [text_inj_of_isPartial h, Combined.text_inj hf hg]

/-- The coded text of a classified error tells its kind and its texts, empty ones included. -/
theorem coded_classify_inj {c c' : Combined} (h : c.OneLined) (h' : c'.OneLined)
    (successes successes' : UInt64) :
    let f := classify c successes
    let g := classify c' successes'
    (f.coded = g.coded ↔ f.isPartial = g.isPartial ∧ c.texts = c'.texts) ∧
      Text.lines f.combined.text = c.texts ∧ Text.lines g.combined.text = c'.texts := by
  intro f g
  have hf : f.combined = c := combined_classify c successes
  have hg : g.combined = c' := combined_classify c' successes'
  rw [hf, hg]
  refine ⟨?_, Combined.lines_text h, Combined.lines_text h'⟩
  have hinj := coded_inj (f := f) (g := g) (hf.symm ▸ h) (hg.symm ▸ h')
  rwa [hf, hg] at hinj

theorem coded_classify_inj_imitation :
    let c : Combined := ⟨[⟨"partial result: lost", 0, []⟩, ⟨"", 0, []⟩], by decide⟩
    let c' : Combined := ⟨[⟨"lost", 0, []⟩, ⟨"", 0, []⟩], by decide⟩
    let f := classify c 0
    let g := classify c' 1
    f.text = g.text ∧ f.coded ≠ g.coded ∧
      Text.lines f.combined.text = ["partial result: lost", ""] ∧
      Text.lines g.combined.text = ["lost", ""] := by
  intro c c' f g
  have h : c.OneLined := by decide
  have h' : c'.OneLined := by decide
  obtain ⟨hinj, hlines, hlines'⟩ := coded_classify_inj h h' 0 1
  refine ⟨by decide, fun heq => ?_, hlines, hlines'⟩
  exact absurd (hinj.1 heq).1 (by decide)

end Failure

end FirstSeen
