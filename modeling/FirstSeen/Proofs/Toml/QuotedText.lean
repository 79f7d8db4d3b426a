import FirstSeen.Toml.Writer
import Mathlib.Logic.Basic
import Mathlib.Tactic.SplitIfs

/-!
Reading back a text that was written. The two readers for text between double quotes treat escapes
in the same way, and the two readers for text over several lines treat the closing quotes in the
same way; each of these is said once, of any reader that does so. Every style gives the text back,
whatever stands behind it, as long as that does not go on with a quote.
-/
namespace FirstSeen.Toml

theorem hexDigit?_hexChar : ∀ n < 16, hexDigit? (hexChar n) = some n := by decide

theorem scalar?_toNat (c : Char) : scalar? c.toNat = some c := by
  have h : c.toNat.isValidChar := c.valid
  rw [scalar?, dif_pos h]
  rfl

theorem isBasicChar_of_not_isControl {c : Char} (hcontrol : isControl c = false) (hline : c ≠ '\n')
    (hquote : c ≠ '"') (hslash : c ≠ '\\') : isBasicChar c = true := by
  simp only [isControl, Bool.or_eq_false_iff, Bool.and_eq_false_iff, decide_eq_false_iff_not,
    Decidable.not_not] at hcontrol
  simp only [isBasicChar, isNonAscii, Bool.or_eq_true, Bool.and_eq_true, decide_eq_true_eq]
  by_cases htab : c = '\t'
  · exact Or.inl (Or.inr htab)
  · have hlow : 0x1F < c.toNat := by
      rcases hcontrol.1 with (h | h) | h
      · omega
      · exact absurd h htab
      · exact absurd h hline
    have hdelete := hcontrol.2
    by_cases h : 0x80 ≤ c.toNat
    · exact Or.inl (Or.inl h)
    · exact Or.inr ⟨⟨⟨by omega, by omega⟩, hquote⟩, hslash⟩

theorem isLiteralChar_of_not_isControl {c : Char} (hcontrol : isControl c = false)
    (hline : c ≠ '\n') (hquote : c ≠ '\'') : isLiteralChar c = true := by
  by_cases hdouble : c = '"'
  · subst hdouble
    decide
  by_cases hslash : c = '\\'
  · subst hslash
    decide
  have h := isBasicChar_of_not_isControl hcontrol hline hdouble hslash
  simp only [isBasicChar, isLiteralChar, Bool.or_eq_true, Bool.and_eq_true] at h ⊢
  rcases h with h | h
  · exact Or.inl h
  · exact Or.inr ⟨h.1.1, by simpa using hquote⟩

/-- A reader of text between double quotes that takes plain characters as they are and an escape as
the character that it stands for. -/
structure Unescapes (read : Escape → Reader (List Char)) : Prop where
  plain : ∀ {c} rest, isBasicChar c = true →
    read .outside (c :: rest) = withChar c (read .outside rest)
  opens : ∀ {c} rest, isSpace c = false → c ≠ '\n' → c ≠ '\r' →
    read .outside ('\\' :: c :: rest) = read .opened (c :: rest)
  letter : ∀ {c d} rest, Escape.next .opened c = some (some d, .outside) →
    read .opened (c :: rest) = withChar d (read .outside rest)
  digits : ∀ {c left value} rest, Escape.next .opened c = some (none, .digits left value) →
    read .opened (c :: rest) = read (.digits left value) rest
  more : ∀ {c d left value} rest, hexDigit? c = some d →
    read (.digits (left + 1) value) (c :: rest) = read (.digits left (16 * value + d)) rest
  last : ∀ {c d value e} rest, hexDigit? c = some d → scalar? (16 * value + d) = some e →
    read (.digits 0 value) (c :: rest) = withChar e (read .outside rest)

theorem ne_of_isBasicChar {c d : Char} (hc : isBasicChar c = true) (hd : isBasicChar d = false) :
    c ≠ d :=
  ne_of_apply_ne isBasicChar (by rw [hc, hd]; decide)

theorem unescapes_basicLine : Unescapes basicLine where
  plain {c} rest h := by
    have hquote : c ≠ '"' := ne_of_isBasicChar h (by decide)
    have hslash : c ≠ '\\' := ne_of_isBasicChar h (by decide)
    simp [basicLine, h, hquote, hslash]
  opens rest _ _ _ := by simp [basicLine]
  letter rest h := by simp [basicLine, h, withChar?]
  digits rest h := by simp [basicLine, h, withChar?]
  more rest h := by simp [basicLine, Escape.next, h, withChar?]
  last rest h he := by simp [basicLine, Escape.next, h, he, withChar?]

theorem unescapes_basicBlock : Unescapes (basicBlock false) where
  plain {c} rest h := by
    have hquote : c ≠ '"' := ne_of_isBasicChar h (by decide)
    have hslash : c ≠ '\\' := ne_of_isBasicChar h (by decide)
    have hline : c ≠ '\n' := ne_of_isBasicChar h (by decide)
    have hreturn : c ≠ '\r' := ne_of_isBasicChar h (by decide)
    rw [basicBlock.eq_def]
    simp [h, hquote, hslash, hline, hreturn]
  opens {c} rest hspace hline hreturn := by
    have hend : atLineEnd (c :: rest) = false := by
      simp [atLineEnd, skipSpace, hspace, newline?, hline, hreturn]
    rw [basicBlock.eq_def]
    simp [hend]
  letter rest h := by simp [basicBlock, h, withChar?]
  digits rest h := by simp [basicBlock, h, withChar?]
  more rest h := by simp [basicBlock, Escape.next, h, withChar?]
  last rest h he := by simp [basicBlock, Escape.next, h, he, withChar?]

namespace Unescapes

variable {read : Escape → Reader (List Char)}

theorem short (hread : Unescapes read) {c d : Char} (rest : List Char)
    (hspace : isSpace c = false ∧ c ≠ '\n' ∧ c ≠ '\r')
    (h : Escape.next .opened c = some (some d, .outside)) :
    read .outside ('\\' :: c :: rest) = withChar d (read .outside rest) := by
  rw [hread.opens rest hspace.1 hspace.2.1 hspace.2.2, hread.letter rest h]

theorem codeEscape (hread : Unescapes read) {c : Char} (hc : c.toNat < 65536)
    (rest : List Char) :
    read .outside (codeEscape c ++ rest) = withChar c (read .outside rest) := by
  have hdigit : ∀ n, hexDigit? (hexChar (n % 16)) = some (n % 16) := fun n =>
    hexDigit?_hexChar _ (Nat.mod_lt n (by decide))
  have hvalue : 16 * (16 * (16 * (16 * 0 + c.toNat / 4096 % 16) + c.toNat / 256 % 16) +
      c.toNat / 16 % 16) + c.toNat % 16 = c.toNat := by omega
  have hscalar := scalar?_toNat c
  rw [← hvalue] at hscalar
  calc
    _ = read .outside ('\\' :: 'u' :: hexChar (c.toNat / 4096 % 16) ::
          hexChar (c.toNat / 256 % 16) :: hexChar (c.toNat / 16 % 16) ::
          hexChar (c.toNat % 16) :: rest) := rfl
    _ = _ := by
      rw [hread.opens _ (by decide) (by decide) (by decide), hread.digits _ rfl,
        hread.more _ (hdigit _), hread.more _ (hdigit _), hread.more _ (hdigit _),
        hread.last _ (hdigit _) hscalar]

theorem basicChar (hread : Unescapes read) {c : Char} (hline : c ≠ '\n') (hquote : c ≠ '"')
    (rest : List Char) :
    read .outside (basicChar c ++ rest) = withChar c (read .outside rest) := by
  unfold Toml.basicChar
  split_ifs with hb ht hf hr hslash hcontrol
  · subst hb
    exact hread.short rest (by decide) rfl
  · subst ht
    exact hread.short rest (by decide) rfl
  · subst hf
    exact hread.short rest (by decide) rfl
  · subst hr
    exact hread.short rest (by decide) rfl
  · subst hslash
    exact hread.short rest (by decide) rfl
  · refine hread.codeEscape ?_ rest
    simp only [isControl, Bool.or_eq_true, Bool.and_eq_true, decide_eq_true_eq] at hcontrol
    omega
  · exact hread.plain rest
      (isBasicChar_of_not_isControl (by simpa using hcontrol) hline hquote hslash)

theorem lineChar (hread : Unescapes read) (c : Char) (rest : List Char) :
    read .outside (lineChar c ++ rest) = withChar c (read .outside rest) := by
  unfold Toml.lineChar
  split_ifs with hquote hline
  · subst hquote
    exact hread.short rest (by decide) rfl
  · subst hline
    exact hread.short rest (by decide) rfl
  · exact hread.basicChar hline hquote rest

end Unescapes

theorem basicLine_flatMap_lineChar (s rest : List Char) :
    basicLine .outside (s.flatMap lineChar ++ '"' :: rest) = some (s, rest) := by
  induction s with
  | nil => rfl
  | cons c s ih =>
    rw [List.flatMap_cons, List.append_assoc, unescapes_basicLine.lineChar, ih]
    rfl

theorem literalLine_append {s : List Char} (h : ∀ c ∈ s, isLiteralChar c = true)
    (rest : List Char) : literalLine (s ++ '\'' :: rest) = some (s, rest) := by
  induction s with
  | nil => rfl
  | cons c s ih =>
    have hc := h c List.mem_cons_self
    have hquote : c ≠ '\'' := ne_of_apply_ne isLiteralChar (by rw [hc]; decide)
    rw [List.cons_append, literalLine, if_neg hquote, if_pos hc,
      ih fun d hd => h d (List.mem_cons_of_mem c hd)]
    rfl

def Ends (quote : Char) (rest : List Char) : Prop := ∀ c ∈ rest.head?, c ≠ quote

theorem closeBlock_of_ends {quote : Char} {rest : List Char} (h : Ends quote rest) :
    closeBlock quote rest = ([], rest) := by
  match rest with
  | [] => rfl
  | [a] => rw [closeBlock, if_neg (h a rfl)]
  | a :: b :: _ => rw [closeBlock, if_neg (h a rfl)]

theorem twoQuotes?_of_ends {quote : Char} {rest : List Char} (h : Ends quote rest) :
    twoQuotes? quote rest = none := by
  match rest with
  | [] => rfl
  | [a] => rfl
  | a :: b :: _ => rw [twoQuotes?, if_neg fun hab => h a rfl hab.1]

theorem twoQuotes?_cons_of_ends {quote : Char} {rest : List Char} (h : Ends quote rest)
    (c : Char) : twoQuotes? quote (c :: rest) = none := by
  match rest with
  | [] => rfl
  | a :: _ => rw [twoQuotes?, if_neg fun hab => h a rfl hab.2]

/-- A reader of text over several lines that ends at three quotes and takes up to two more in front
of them as text. -/
def ClosesBy (quote : Char) (read : Reader (List Char)) : Prop :=
  ∀ rest, read (quote :: rest) =
    match twoQuotes? quote rest with
    | some rest => some (closeBlock quote rest)
    | none => withChar quote (read rest)

theorem closesBy_basicBlock : ClosesBy '"' (basicBlock false .outside) := by
  intro rest
  rw [basicBlock.eq_def]
  rfl

theorem closesBy_literalBlock : ClosesBy '\'' literalBlock := by
  intro rest
  rw [literalBlock.eq_def]
  rfl

namespace ClosesBy

variable {quote : Char} {read : Reader (List Char)}

theorem close (hread : ClosesBy quote read) {run : Nat} (hrun : run ≤ 2) {rest : List Char}
    (hrest : Ends quote rest) :
    read (List.replicate run quote ++ quote :: quote :: quote :: rest) =
      some (List.replicate run quote, rest) := by
  match run, hrun with
  | 0, _ =>
    rw [List.replicate_zero, List.nil_append, hread, twoQuotes?, if_pos ⟨rfl, rfl⟩]
    exact congrArg some (closeBlock_of_ends hrest)
  | 1, _ =>
    have hclose : closeBlock quote (quote :: rest) = ([quote], rest) := by
      cases rest with
      | nil => rw [closeBlock, if_pos rfl]
      | cons b more => rw [closeBlock, if_pos rfl, if_neg (hrest b rfl)]
    rw [List.replicate_one, List.singleton_append, hread, twoQuotes?, if_pos ⟨rfl, rfl⟩]
    exact congrArg some hclose
  | 2, _ =>
    have hclose : closeBlock quote (quote :: quote :: rest) = ([quote, quote], rest) := by
      rw [closeBlock, if_pos rfl, if_pos rfl]
    change read (quote :: quote :: quote :: quote :: quote :: rest) = _
    rw [hread, twoQuotes?, if_pos ⟨rfl, rfl⟩]
    exact congrArg some hclose

theorem quotes (hread : ClosesBy quote read) {run : Nat} (hrun : run ≤ 2) {t s rest : List Char}
    (ht : Ends quote t) (h : read t = some (s, rest)) :
    read (List.replicate run quote ++ t) = some (List.replicate run quote ++ s, rest) := by
  match run, hrun with
  | 0, _ => exact h
  | 1, _ =>
    rw [List.replicate_one, List.singleton_append, hread, twoQuotes?_of_ends ht, h]
    rfl
  | 2, _ =>
    change read (quote :: quote :: t) = _
    rw [hread, twoQuotes?_cons_of_ends ht, hread, twoQuotes?_of_ends ht, h]
    rfl

end ClosesBy

theorem replicate_succ_append (run : Nat) (quote : Char) (s : List Char) :
    List.replicate (run + 1) quote ++ s = List.replicate run quote ++ quote :: s := by
  rw [List.replicate_succ', List.append_assoc, List.singleton_append]

theorem ends_basicChar {c : Char} (h : c ≠ '"') (rest : List Char) :
    Ends '"' (basicChar c ++ rest) := by
  unfold basicChar codeEscape
  split_ifs <;> simp [Ends, h]

theorem basicBlock_newline (rest : List Char) : basicBlock false .outside ('\n' :: rest) =
    withChar '\n' (basicBlock false .outside rest) := by
  rw [basicBlock.eq_def]
  rfl

/-- Text over several lines between double quotes, of which `run` quotes were read already. -/
theorem basicBlock_blockChars {rest : List Char} (hrest : Ends '"' rest) (s : List Char)
    {run : Nat} (hrun : run ≤ 2) :
    basicBlock false .outside
        (List.replicate run '"' ++ (blockChars run s ++ '"' :: '"' :: '"' :: rest)) =
      some (List.replicate run '"' ++ s, rest) := by
  induction s generalizing run with
  | nil =>
    rw [List.append_nil]
    exact closesBy_basicBlock.close hrun hrest
  | cons c s ih =>
    by_cases hquote : c = '"'
    · subst hquote
      rw [blockChars, if_pos rfl]
      split_ifs with htwo
      · have hescape : basicBlock false .outside
            ('\\' :: '"' :: (blockChars 0 s ++ '"' :: '"' :: '"' :: rest)) =
              some ('"' :: s, rest) := by
          rw [unescapes_basicBlock.short _ (by decide) rfl]
          exact congrArg (withChar '"') (ih (Nat.zero_le 2))
        exact closesBy_basicBlock.quotes hrun (by simp [Ends]) hescape
      · have hnext := ih (show run + 1 ≤ 2 by omega)
        rw [replicate_succ_append, replicate_succ_append] at hnext
        exact hnext
    · have hrest' := ih (Nat.zero_le 2)
      rw [blockChars, if_neg hquote]
      split_ifs with hline
      · subst hline
        refine closesBy_basicBlock.quotes hrun (by simp [Ends]) ?_
        rw [List.cons_append, basicBlock_newline]
        exact congrArg (withChar '\n') hrest'
      · rw [List.append_assoc]
        refine closesBy_basicBlock.quotes hrun (ends_basicChar hquote _) ?_
        rw [unescapes_basicBlock.basicChar hline hquote]
        exact congrArg (withChar c) hrest'

theorem literalBlock_cons {c : Char} (hcontrol : isControl c = false) (hquote : c ≠ '\'')
    (rest : List Char) : literalBlock (c :: rest) = withChar c (literalBlock rest) := by
  have hreturn : c ≠ '\r' := ne_of_apply_ne isControl (by rw [hcontrol]; decide)
  rw [literalBlock.eq_def]
  by_cases hline : c = '\n'
  · simp [hline]
  · simp [hquote, hline, hreturn, isLiteralChar_of_not_isControl hcontrol hline hquote]

theorem literalBlock_append {rest : List Char} (hrest : Ends '\'' rest) {s : List Char}
    (hcontrol : ∀ c ∈ s, isControl c = false) {run : Nat} (hrun : run ≤ 2)
    (htriple : hasTriple '\'' run s = false) :
    literalBlock (List.replicate run '\'' ++ (s ++ '\'' :: '\'' :: '\'' :: rest)) =
      some (List.replicate run '\'' ++ s, rest) := by
  induction s generalizing run with
  | nil =>
    rw [List.append_nil]
    exact closesBy_literalBlock.close hrun hrest
  | cons c s ih =>
    have hs : ∀ d ∈ s, isControl d = false := fun d hd => hcontrol d (List.mem_cons_of_mem c hd)
    rw [hasTriple] at htriple
    split_ifs at htriple with hquote htwo
    · subst hquote
      have hnext := ih hs (show run + 1 ≤ 2 by omega) htriple
      rw [replicate_succ_append, replicate_succ_append] at hnext
      exact hnext
    · refine closesBy_literalBlock.quotes hrun (by simpa [Ends] using hquote) ?_
      rw [List.cons_append, literalBlock_cons (hcontrol c List.mem_cons_self) hquote]
      exact congrArg (withChar c) (ih hs (Nat.zero_le 2) htriple)

theorem dropNewline_eq_self {s : List Char} (h : ∀ c ∈ s.head?, c ≠ '\n' ∧ c ≠ '\r') :
    dropNewline s = s := by
  unfold dropNewline newline?
  split
  · exact absurd rfl (h '\n' rfl).1
  · exact absurd rfl (h '\r' rfl).2
  · rfl

theorem dropNewline_freshLine (s t : List Char)
    (h : s.contains '\n' = false → ∀ c ∈ t.head?, c ≠ '\n' ∧ c ≠ '\r') :
    dropNewline (freshLine s ++ t) = t := by
  unfold freshLine
  split_ifs with hline
  · rfl
  · exact dropNewline_eq_self (h (by simpa using hline))

theorem head?_blockChars {s : List Char} (hline : '\n' ∉ s) (rest : List Char) :
    ∀ c ∈ (blockChars 0 s ++ '"' :: rest).head?, c ≠ '\n' ∧ c ≠ '\r' := by
  cases s with
  | nil => simp [blockChars]
  | cons d s =>
    have hd : d ≠ '\n' := fun h => hline (h ▸ List.mem_cons_self)
    unfold blockChars basicChar codeEscape
    split_ifs <;> simp_all

theorem quotedText_basicLine {rest : List Char} (hrest : Ends '"' rest) (s : List Char) :
    quotedText (inStyle .basicLine s ++ rest) = some (s, rest) := by
  have htwo : twoQuotes? '"' (s.flatMap lineChar ++ '"' :: rest) = none := by
    cases s with
    | nil => exact twoQuotes?_cons_of_ends hrest '"'
    | cons c s =>
      refine twoQuotes?_of_ends ?_
      rw [List.flatMap_cons, lineChar]
      split_ifs with hquote hline
      · simp [Ends]
      · simp [Ends]
      · rw [List.append_assoc]
        exact ends_basicChar hquote _
  have hshape : inStyle .basicLine s ++ rest =
      '"' :: (s.flatMap lineChar ++ '"' :: rest) := by
    simp [inStyle]
  rw [hshape, quotedText, htwo]
  exact basicLine_flatMap_lineChar s rest

theorem quotedText_literalLine {rest : List Char} (hrest : Ends '\'' rest) {s : List Char}
    (h : ∀ c ∈ s, isLiteralChar c = true) :
    quotedText (inStyle .literalLine s ++ rest) = some (s, rest) := by
  have htwo : twoQuotes? '\'' (s ++ '\'' :: rest) = none := by
    cases s with
    | nil => exact twoQuotes?_cons_of_ends hrest '\''
    | cons c s =>
      refine twoQuotes?_of_ends ?_
      intro d hd
      obtain rfl : c = d := by simpa using hd
      exact ne_of_apply_ne isLiteralChar (by rw [h c List.mem_cons_self]; decide)
  have hshape : inStyle .literalLine s ++ rest = '\'' :: (s ++ '\'' :: rest) := by
    simp [inStyle]
  rw [hshape, quotedText, htwo]
  exact literalLine_append h rest

theorem quotedText_basicBlock {rest : List Char} (hrest : Ends '"' rest) (s : List Char) :
    quotedText (inStyle .basicBlock s ++ rest) = some (s, rest) := by
  have hshape : inStyle .basicBlock s ++ rest = '"' :: '"' :: '"' ::
      (freshLine s ++ (blockChars 0 s ++ '"' :: '"' :: '"' :: rest)) := by
    simp [inStyle]
  rw [hshape, quotedText, twoQuotes?, if_pos ⟨rfl, rfl⟩]
  change basicBlock false .outside (dropNewline _) = _
  rw [dropNewline_freshLine s _ fun hline => head?_blockChars (by simpa using hline) _]
  exact basicBlock_blockChars hrest s (Nat.zero_le 2)

theorem quotedText_literalBlock {rest : List Char} (hrest : Ends '\'' rest) {s : List Char}
    (hcontrol : ∀ c ∈ s, isControl c = false) (htriple : hasTriple '\'' 0 s = false) :
    quotedText (inStyle .literalBlock s ++ rest) = some (s, rest) := by
  have hshape : inStyle .literalBlock s ++ rest = '\'' :: '\'' :: '\'' ::
      (freshLine s ++ (s ++ '\'' :: '\'' :: '\'' :: rest)) := by
    simp [inStyle]
  have hhead : s.contains '\n' = false →
      ∀ c ∈ (s ++ '\'' :: '\'' :: '\'' :: rest).head?, c ≠ '\n' ∧ c ≠ '\r' := by
    intro hline
    cases s with
    | nil => simp
    | cons d s =>
      intro c hc
      obtain rfl : d = c := by simpa using hc
      have hd : d ≠ '\r' := ne_of_apply_ne isControl (by rw [hcontrol d List.mem_cons_self]; decide)
      refine ⟨?_, hd⟩
      intro h
      simp [h] at hline
  rw [hshape, quotedText, twoQuotes?, if_pos ⟨rfl, rfl⟩]
  change literalBlock (dropNewline _) = _
  rw [dropNewline_freshLine s _ hhead]
  exact literalBlock_append hrest hcontrol (Nat.zero_le 2) htriple

theorem isControl_eq_false_of_any {s : List Char} (h : s.any isControl = false) :
    ∀ c ∈ s, isControl c = false := by
  intro c hc
  exact Bool.eq_false_iff.2 (List.any_eq_false.1 h c hc)

theorem isLiteralChar_of_styleOf {s : List Char} (h : styleOf s = .literalLine) :
    ∀ c ∈ s, isLiteralChar c = true := by
  unfold styleOf at h
  dsimp only at h
  split_ifs at h with _ hstyle
  simp only [Bool.and_eq_true, Bool.not_eq_true', List.contains_eq_mem, decide_eq_false_iff_not]
    at hstyle
  obtain ⟨⟨hcontrol, hline⟩, hquote⟩ := hstyle
  intro c hc
  exact isLiteralChar_of_not_isControl (isControl_eq_false_of_any hcontrol c hc)
    (ne_of_mem_of_not_mem hc hline) (ne_of_mem_of_not_mem hc hquote)

theorem of_styleOf_literalBlock {s : List Char} (h : styleOf s = .literalBlock) :
    (∀ c ∈ s, isControl c = false) ∧ hasTriple '\'' 0 s = false := by
  unfold styleOf at h
  dsimp only at h
  split_ifs at h with _ _ _ hstyle
  simp only [Bool.and_eq_true, Bool.not_eq_true'] at hstyle
  exact ⟨isControl_eq_false_of_any hstyle.1, hstyle.2⟩

/-- Whatever the style, the text that was written is read again. -/
theorem quotedText_writeText {rest : List Char} (hdouble : Ends '"' rest)
    (hsingle : Ends '\'' rest) (s : List Char) :
    quotedText (writeText s ++ rest) = some (s, rest) := by
  unfold writeText
  cases h : styleOf s with
  | basicLine => exact quotedText_basicLine hdouble s
  | literalLine => exact quotedText_literalLine hsingle (isLiteralChar_of_styleOf h)
  | basicBlock => exact quotedText_basicBlock hdouble s
  | literalBlock =>
    obtain ⟨hcontrol, htriple⟩ := of_styleOf_literalBlock h
    exact quotedText_literalBlock hsingle hcontrol htriple

end FirstSeen.Toml
