import FirstSeen.Aggregate.Sink
import FirstSeen.Text.Pieces

/-!
The context of a report read back from its text. A blank stands between two fields and an equals
sign between a key and its value. So long as keys have neither of the two and values have no blank,
the text falls apart where it was put together: it is cut at every blank, and each piece at its
first equals sign, whatever the value behind that may hold. A field without key and value still has
its equals sign, so the text is empty for the empty context alone.
-/
namespace FirstSeen.Log

open Aggregate (Emission Sink)

namespace Field

structure Separable (f : Field) : Prop where
  blank_not_mem_key : ' ' ∉ f.key.toList
  equals_not_mem_key : '=' ∉ f.key.toList
  blank_not_mem_value : ' ' ∉ f.value.toList

def ofText (s : List Char) : Field :=
  ⟨String.ofList (Text.cutAt '=' s).1, String.ofList (Text.cutAt '=' s).2⟩

def readAll (s : String) : List Field :=
  if s = "" then [] else (Text.piecesAt ' ' s.toList).map ofText

variable {f : Field} {fields others : List Field}

theorem toList_text (f : Field) : f.text.toList = f.key.toList ++ '=' :: f.value.toList := by
  simp [text]

theorem ofText_text (h : '=' ∉ f.key.toList) : ofText f.text.toList = f := by
  rw [ofText, toList_text, Text.cutAt_append_cons h, String.ofList_toList, String.ofList_toList]

theorem Separable.blank_not_mem_text (h : f.Separable) : ' ' ∉ f.text.toList := by
  rw [toList_text, List.mem_append, List.mem_cons]
  rintro (hkey | hequals | hvalue)
  · exact h.blank_not_mem_key hkey
  · exact absurd hequals (by decide)
  · exact h.blank_not_mem_value hvalue

theorem piecesAt_textAll (hne : fields ≠ []) (h : ∀ f ∈ fields, f.Separable) :
    Text.piecesAt ' ' (textAll fields).toList = fields.map fun f => f.text.toList := by
  have hblank : ∀ t ∈ fields.map text, ' ' ∉ t.toList := by
    intro t ht
    obtain ⟨f, hf, rfl⟩ := List.mem_map.1 ht
    exact (h f hf).blank_not_mem_text
  rw [textAll, Text.piecesAt_intercalate_toList rfl (by simpa using hne) hblank, List.map_map]
  rfl

theorem textAll_ne_empty (hne : fields ≠ []) (h : ∀ f ∈ fields, f.Separable) :
    textAll fields ≠ "" := by
  intro hempty
  have hpieces := piecesAt_textAll hne h
  obtain ⟨f, hf⟩ := List.exists_mem_of_ne_nil _ hne
  -- The only piece of the empty text is empty, and the text of a field is not.
  have hpiece : f.text.toList ∈ Text.piecesAt ' ' "".toList := by
    rw [← hempty, hpieces]
    exact List.mem_map_of_mem hf
  have hnil : f.text.toList = [] := List.mem_singleton.1 hpiece
  rw [toList_text] at hnil
  exact absurd hnil (by simp)

theorem readAll_textAll (h : ∀ f ∈ fields, f.Separable) : readAll (textAll fields) = fields := by
  by_cases hnil : fields = []
  · subst hnil
    rfl
  · have hread : ∀ f ∈ fields, (ofText ∘ fun f => f.text.toList) f = id f := fun f hf =>
      ofText_text (h f hf).equals_not_mem_key
    rw [readAll, if_neg (textAll_ne_empty hnil h), piecesAt_textAll hnil h, List.map_map,
      List.map_congr_left hread, List.map_id]

/-- Contexts that can be told apart have different texts, and the text is what a logging sink
records in the one event that it raises. -/
theorem textAll_inj (h : ∀ f ∈ fields, f.Separable) (h' : ∀ f ∈ others, f.Separable) :
    (textAll fields = textAll others ↔ fields = others) ∧
      ∀ (level : Level) (e : Emission),
        ((Sink.log level).events e).map (fun event => event.fields.lookup contextField) =
          [some (textAll e.context)] := by
  constructor
  · constructor
    · intro htext
      rw [← readAll_textAll h, htext, readAll_textAll h']
    · exact congrArg textAll
  · intro level e
    rfl

theorem textAll_inj_equals_signs :
    let fields : List Field := [⟨"path", "a=b="⟩, ⟨"", ""⟩]
    let others : List Field := [⟨"path", "a=b="⟩]
    textAll fields = "path=a=b= =" ∧ textAll fields ≠ textAll others ∧
      ((Sink.log .warn).events ⟨⟨"lost", 1, []⟩, "step failed", fields⟩).map
        (fun event => event.fields.lookup contextField) = [some "path=a=b= ="] := by
  intro fields others
  have hpath : Separable ⟨"path", "a=b="⟩ := ⟨by decide, by decide, by decide⟩
  have hempty : Separable ⟨"", ""⟩ := ⟨by decide, by decide, by decide⟩
  have h : ∀ f ∈ fields, f.Separable :=
    List.forall_mem_cons.2 ⟨hpath, List.forall_mem_singleton.2 hempty⟩
  have h' : ∀ f ∈ others, f.Separable := List.forall_mem_singleton.2 hpath
  obtain ⟨hinj, hrecorded⟩ := textAll_inj h h'
  have htext : textAll fields = "path=a=b= =" := by decide
  exact ⟨htext, fun heq => absurd (hinj.1 heq) (by decide), htext ▸ hrecorded .warn _⟩

end Field

end FirstSeen.Log
