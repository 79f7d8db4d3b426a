import FirstSeen.Log.Session
import FirstSeen.Proofs.Log.Decisive
import Mathlib.Data.List.Forall2

/-!
Which filter text is put to use. There are two candidates, the text of the environment, if it has
one, and the text of the settings, and behind them the default. A candidate counts if it is a list of
directives throughout; a single piece between its commas that is no directive spoils it. So whatever
is chosen is read without loss, and offered as the text of the environment it is chosen again.
-/
namespace FirstSeen.Log

namespace Directive

def Complete (text : String) : Prop :=
  ∀ piece ∈ Text.piecesAt ',' text.toList, piece ≠ [] → ∃ d, read piece = some d

theorem readAll_eq_some_iff {s : List Char} {ds : List Directive} :
    readAll s = some ds ↔ List.Forall₂ (fun piece d => read piece = some d) (written s) ds := by
  unfold readAll
  induction written s generalizing ds with
  | nil => simp [eq_comm]
  | cons piece rest ih =>
    simp only [List.mapM_cons, Option.bind_eq_bind, Option.bind_eq_some_iff, Option.pure_def,
      Option.some.injEq, List.forall₂_cons_left_iff, ih]
    constructor
    · rintro ⟨d, hd, ds, hds, rfl⟩
      exact ⟨d, ds, hd, hds, rfl⟩
    · rintro ⟨d, ds, hd, hds, rfl⟩
      exact ⟨d, hd, ds, hds, rfl⟩

theorem complete_iff {text : String} : Complete text ↔ (readAll text.toList).isSome = true := by
  have hpieces : Complete text ↔ ∀ piece ∈ written text.toList, (read piece).isSome = true := by
    simp [Complete, written, Option.isSome_iff_exists]
  rw [hpieces, readAll]
  induction written text.toList with
  | nil => simp
  | cons piece rest ih =>
    simp only [List.forall_mem_cons, ih, List.mapM_cons]
    cases read piece <;> cases rest.mapM read <;> simp

end Directive

open Directive (Complete)

inductive Chosen (env : Option String) (logging : Logging) : String → Prop where
  | environment {text : String} (henv : env = some text) (h : Complete text) :
      Chosen env logging text
  | settings (henv : ∀ text, env = some text → ¬ Complete text)
      (h : Complete (logging.filter.getD "sift=info")) :
      Chosen env logging (logging.filter.getD "sift=info")
  | default (henv : ∀ text, env = some text → ¬ Complete text)
      (h : ¬ Complete (logging.filter.getD "sift=info")) : Chosen env logging "sift=info"

variable {env : Option String} {logging : Logging} {text : String}

theorem filterText_of_not_complete (henv : ∀ text, env = some text → ¬ Complete text) :
    filterText env logging = filterText none logging := by
  cases env with
  | none => rfl
  | some text =>
    have h := henv text rfl
    rw [Directive.complete_iff] at h
    simp [filterText, h]

theorem filterText_of_chosen (h : Chosen env logging text) : filterText env logging = text := by
  cases h with
  | environment henv h =>
    rw [Directive.complete_iff] at h
    simp [filterText, henv, h]
  | settings henv h =>
    rw [Directive.complete_iff] at h
    rw [filterText_of_not_complete henv]
    simp [filterText, Logging.effectiveFilter, Logging.defaultFilter, h]
  | default henv h =>
    rw [Directive.complete_iff] at h
    rw [filterText_of_not_complete henv]
    simp [filterText, Logging.effectiveFilter, Logging.defaultFilter, h]

theorem exists_chosen (env : Option String) (logging : Logging) :
    ∃ text, Chosen env logging text := by
  by_cases henv : ∀ text, env = some text → ¬ Complete text
  · by_cases h : Complete (logging.filter.getD "sift=info")
    · exact ⟨_, .settings henv h⟩
    · exact ⟨_, .default henv h⟩
  · push Not at henv
    obtain ⟨text, henv, h⟩ := henv
    exact ⟨text, .environment henv h⟩

example : filterText (some "sift=info,sift=loud") ⟨some "warn", none, none⟩ = "warn" := by decide

end FirstSeen.Log
