/-!
A text cut at every occurrence of one character. There is one piece more than there are
occurrences, and a piece may be empty. Pieces without that character are found again when they are
put together with it in between.
-/
namespace FirstSeen.Text

def extendFirst (c : Char) : List (List Char) → List (List Char)
  | [] => [[c]]
  | piece :: more => (c :: piece) :: more

def piecesAt (sep : Char) : List Char → List (List Char)
  | [] => [[]]
  | c :: rest => if c = sep then [] :: piecesAt sep rest else extendFirst c (piecesAt sep rest)

theorem piecesAt_append_cons {sep : Char} {piece : List Char} (h : sep ∉ piece)
    (rest : List Char) : piecesAt sep (piece ++ sep :: rest) = piece :: piecesAt sep rest := by
  induction piece with
  | nil => simp [piecesAt]
  | cons c tail ih =>
    rw [List.mem_cons, not_or] at h
    simp [piecesAt, Ne.symm h.1, ih h.2, extendFirst]

theorem piecesAt_of_not_mem {sep : Char} {piece : List Char} (h : sep ∉ piece) :
    piecesAt sep piece = [piece] := by
  induction piece with
  | nil => rfl
  | cons c tail ih =>
    rw [List.mem_cons, not_or] at h
    simp [piecesAt, Ne.symm h.1, ih h.2, extendFirst]

theorem piecesAt_intercalate {sep : Char} {pieces : List (List Char)} (hne : pieces ≠ [])
    (h : ∀ piece ∈ pieces, sep ∉ piece) : piecesAt sep ([sep].intercalate pieces) = pieces := by
  induction pieces with
  | nil => exact absurd rfl hne
  | cons piece more ih =>
    obtain ⟨hpiece, hmore⟩ := List.forall_mem_cons.1 h
    cases more with
    | nil => rw [List.intercalate_singleton, piecesAt_of_not_mem hpiece]
    | cons next more =>
      rw [List.intercalate_cons_cons, List.append_assoc, List.singleton_append,
        piecesAt_append_cons hpiece, ih (List.cons_ne_nil _ _) hmore]

theorem piecesAt_intercalate_toList {sep : String} {c : Char} (hsep : sep.toList = [c])
    {texts : List String} (hne : texts ≠ []) (h : ∀ t ∈ texts, c ∉ t.toList) :
    piecesAt c (sep.intercalate texts).toList = texts.map String.toList := by
  rw [String.toList_intercalate, hsep]
  exact piecesAt_intercalate (by simpa using hne) (by simpa using h)

def cutAt (sep : Char) (s : List Char) : List Char × List Char :=
  (s.takeWhile (· ≠ sep), (s.dropWhile (· ≠ sep)).tail)

theorem cutAt_append_cons {sep : Char} {front : List Char} (h : sep ∉ front)
    (rest : List Char) : cutAt sep (front ++ sep :: rest) = (front, rest) := by
  have hfront : ∀ c ∈ front, decide (c ≠ sep) = true := fun c hc =>
    decide_eq_true (ne_of_mem_of_not_mem hc h)
  rw [cutAt, List.takeWhile_append_of_pos hfront, List.dropWhile_append_of_pos hfront]
  simp

def lines (s : String) : List String := (piecesAt '\n' s.toList).map String.ofList

theorem lines_intercalate {texts : List String} (hne : texts ≠ [])
    (h : ∀ t ∈ texts, '\n' ∉ t.toList) : lines ("\n".intercalate texts) = texts := by
  rw [lines, piecesAt_intercalate_toList rfl hne h, List.map_map]
  simp

end FirstSeen.Text
