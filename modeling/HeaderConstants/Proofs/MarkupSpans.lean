import HeaderConstants.Text.Markup

/-!
What markup stands for, and what an escaped text stands for. Escaping keeps every character, but for
a run of backslashes at the very end: what becomes of that run depends on what follows.
-/

namespace HeaderConstants.Text

/-- A piece of what markup stands for. -/
inductive Span
  | shown (c : Char)
  /-- A style tag, which shows nothing itself. -/
  | tag (style : String)
  deriving DecidableEq

/-- The spans of markup that comes after a run of backslashes. In front of a tag two backslashes
stand for one, and a single one that is left over makes the tag a text. In front of anything else
each backslash stands for itself. -/
def spansAfter (run : Nat) : List Char → List Span
  | [] => List.replicate run (.shown '\\')
  | c :: rest =>
    if c = '\\' then spansAfter (run + 1) rest
    else if c = '[' ∧ opensTag rest = true then
      let style := rest.takeWhile (· ≠ ']')
      List.replicate (run / 2) (.shown '\\') ++
        (if run % 2 = 1 then ('[' :: style ++ [']']).map .shown
         else [.tag (String.ofList style)]) ++
        spansAfter 0 (rest.drop (style.length + 1))
    else List.replicate run (.shown '\\') ++ .shown c :: spansAfter 0 rest
termination_by s => s.length
decreasing_by all_goals simp; try omega

/-- The tags and characters of a markup text. -/
def spans (markup : String) : List Span := spansAfter 0 markup.toList

/-- The spans of a text that shows as it is. -/
def literalSpans (text : List Char) : List Span := text.map .shown

/-- What is seen of a span: a character, and nothing of a tag. -/
def Span.shown? : Span → Option Char
  | .shown c => some c
  | .tag _ => none

/-- The text that markup shows, without its styles. -/
def shownText (markup : String) : String := String.ofList ((spans markup).filterMap Span.shown?)

/-- The number of backslashes at the end of a text. -/
def endRun (s : List Char) : Nat := (s.reverse.takeWhile (· = '\\')).length

/-- The number of backslashes at the end of a text that was escaped. -/
def closedRun (run : Nat) : Nat := if run = 1 then 2 else run

section EndRun

variable {body s : List Char}

theorem exists_eq_append_run (s : List Char) :
    ∃ body, body.getLast? ≠ some '\\' ∧ s = body ++ List.replicate (endRun s) '\\' := by
  refine ⟨(s.reverse.dropWhile (· = '\\')).reverse, ?_, ?_⟩
  · rw [List.getLast?_reverse]
    intro hhead
    have hnot := List.head?_dropWhile_not (· = '\\') s.reverse
    simp [hhead] at hnot
  · have hrun : s.reverse.takeWhile (· = '\\') = List.replicate (endRun s) '\\' := by
      refine List.eq_replicate_iff.mpr ⟨rfl, fun c hc => ?_⟩
      simpa using List.all_eq_true.mp List.all_takeWhile c hc
    have hsplit := List.takeWhile_append_dropWhile (p := (· = '\\')) (l := s.reverse)
    rw [hrun] at hsplit
    simpa using (congrArg List.reverse hsplit).symm

theorem endRun_concat (s : List Char) : endRun (s ++ ['\\']) = endRun s + 1 := by
  simp [endRun]

theorem endRun_replicate (n : Nat) : endRun (List.replicate n '\\') = n := by
  simp [endRun]

theorem endRun_append_cons {c : Char} (hc : c ≠ '\\') (s t : List Char) :
    endRun (s ++ c :: t) = endRun t := by
  have hstop : (c :: s.reverse).takeWhile (· = '\\') = [] := by
    simp [hc]
  rw [endRun, endRun, List.reverse_append, List.reverse_cons, List.append_assoc,
    List.singleton_append, List.takeWhile_append, hstop, List.append_nil]
  split
  · rename_i hall
    exact hall.symm
  · rfl

theorem endRun_append (h : s.getLast? ≠ some '\\') (t : List Char) :
    endRun (s ++ t) = endRun t := by
  obtain rfl | ⟨s, c, rfl⟩ := List.eq_nil_or_concat s
  · rfl
  · rw [List.concat_eq_append] at h ⊢
    rw [List.append_assoc, List.singleton_append]
    exact endRun_append_cons (by simpa using h) s t

theorem closeMarkup_append (h : body.getLast? ≠ some '\\') (run : Nat) :
    closeMarkup (body ++ List.replicate run '\\') =
      body ++ List.replicate (closedRun run) '\\' := by
  rw [closeMarkup, closedRun]
  match run with
  | 0 => simp [h]
  | 1 => simp [h]
  | n + 2 =>
      have hdrop : (body ++ List.replicate (n + 2) '\\').dropLast =
          body ++ List.replicate (n + 1) '\\' := by
        rw [List.dropLast_append_of_ne_nil (by simp), List.dropLast_replicate]
        rfl
      have hlast : (body ++ List.replicate (n + 1) '\\').getLast? = some '\\' := by
        simp [List.getLast?_append, List.getLast?_replicate]
      rw [hdrop, hlast]
      simp

theorem closeMarkup_eq (s : List Char) :
    closeMarkup s = if endRun s = 1 then s ++ ['\\'] else s := by
  obtain ⟨body, hbody, hs⟩ := exists_eq_append_run s
  have hclose := closeMarkup_append hbody (endRun s)
  rw [← hs] at hclose
  rw [hclose, closedRun]
  split
  · rename_i hone
    rw [hone] at hs
    rw [hs]
    simp
  · exact hs.symm

/-- Closing only merges a text that ends in a single backslash with the one that ends in two. -/
theorem closeMarkup_eq_iff {t : List Char} :
    closeMarkup s = closeMarkup t ↔
      s = t ∨ endRun s = 1 ∧ t = s ++ ['\\'] ∨ endRun t = 1 ∧ s = t ++ ['\\'] := by
  have hnext : ∀ u : List Char, endRun u = 1 → endRun (u ++ ['\\']) ≠ 1 := by
    intro u hone
    rw [endRun_concat, hone]
    decide
  rw [closeMarkup_eq, closeMarkup_eq]
  constructor
  · intro h
    split at h <;> split at h
    · exact .inl (List.append_cancel_right h)
    · exact .inr (.inl ⟨‹_›, h.symm⟩)
    · exact .inr (.inr ⟨‹_›, h⟩)
    · exact .inl h
  · rintro (rfl | ⟨hs, rfl⟩ | ⟨ht, rfl⟩)
    · rfl
    · rw [if_pos hs, if_neg (hnext s hs)]
    · rw [if_pos ht, if_neg (hnext t ht)]

end EndRun

section Runs

variable {s before : List Char} {run : Nat}

theorem replicate_append_cons (run : Nat) (s : List Char) :
    List.replicate run '\\' ++ '\\' :: s = List.replicate (run + 1) '\\' ++ s := by
  rw [List.replicate_succ', List.append_assoc, List.singleton_append]

theorem eq_zero_of_getLast?_run
    (h : (List.replicate run '\\' ++ []).getLast? ≠ some '\\') : run = 0 := by
  cases run with
  | zero => rfl
  | succ run => simp [List.getLast?_replicate] at h

theorem getLast?_of_append_cons {c : Char} (h : (before ++ c :: s).getLast? ≠ some '\\') :
    s.getLast? ≠ some '\\' := by
  intro hs
  simp [List.getLast?_append, List.getLast?_cons, hs] at h

end Runs

section Tags

variable {s rest : List Char}

theorem isBracket_eq_false_of_startsTag {c : Char} (h : startsTag c = true) :
    isBracket c = false := by
  rw [isBracket, Bool.or_eq_false_iff, decide_eq_false_iff_not, decide_eq_false_iff_not]
  constructor
  · rintro rfl
    exact absurd h (by decide)
  · rintro rfl
    exact absurd h (by decide)

/-- The text between the brackets of a tag. -/
def IsStyle (style : List Char) : Prop :=
  style.head?.any startsTag = true ∧ ∀ c ∈ style, isBracket c = false

-- Over the list and not over all characters, which a search for an instance may come to try.
instance : DecidablePred IsStyle := fun style =>
  decidable_of_iff (style.head?.any startsTag = true ∧ style.all (!isBracket ·) = true)
    (by simp [IsStyle])

theorem takeWhile_of_isStyle {style : List Char} (h : IsStyle style) (rest : List Char) :
    (style ++ ']' :: rest).takeWhile (· ≠ ']') = style := by
  have hopen : ∀ c ∈ style, c ≠ ']' := by
    rintro c hc rfl
    exact absurd (h.2 _ hc) (by decide)
  rw [List.takeWhile_append_of_pos (by simpa using hopen)]
  simp

theorem bracket_notMem_of_isStyle {style : List Char} (h : IsStyle style) :
    '[' ∉ style ++ [']'] := by
  simpa using fun hmem => absurd (h.2 _ hmem) (by decide)

theorem opensTag_iff : opensTag s = true ↔ ∃ style rest, s = style ++ ']' :: rest ∧ IsStyle style := by
  cases s with
  | nil => simp [opensTag]
  | cons c s =>
      rw [opensTag, Bool.and_eq_true, beq_iff_eq, List.find?_eq_some_iff_append]
      constructor
      · rintro ⟨hc, -, style, rest, rfl, hstyle⟩
        refine ⟨c :: style, rest, rfl, by simpa using hc, ?_⟩
        simpa [isBracket_eq_false_of_startsTag hc] using hstyle
      · rintro ⟨style, rest, hs, hhead, hstyle⟩
        cases style with
        | nil => simp at hhead
        | cons d style =>
            obtain ⟨rfl, rfl⟩ := List.cons.inj hs
            refine ⟨by simpa using hhead, by decide, style, rest, rfl, ?_⟩
            simpa using fun e he => hstyle e (List.mem_cons_of_mem _ he)

theorem opensTag_eq (s : List Char) :
    opensTag s = (s.head?.any startsTag && s.find? isBracket == some ']') := by
  cases s with
  | nil => rfl
  | cons c s =>
      by_cases hc : startsTag c = true
      · simp [opensTag, isBracket_eq_false_of_startsTag hc]
      · simp [opensTag, hc]

/-- The text closes no tag that began before it. -/
def Apart (rest : List Char) : Prop := rest.find? isBracket ≠ some ']'

theorem opensTag_append (h : Apart rest) (s : List Char) :
    opensTag (s ++ rest) = opensTag s := by
  rw [Apart] at h
  rw [opensTag_eq, opensTag_eq, List.find?_append]
  cases s with
  | nil => simp [h]
  | cons c s =>
      cases hfound : (c :: s).find? isBracket with
      | none => simp [h]
      | some d => simp

theorem next_cases (c : Char) (s : List Char) :
    c = '\\' ∨ (c = '[' ∧ opensTag s = true) ∨ (c ≠ '\\' ∧ (c = '[' → opensTag s = false)) := by
  by_cases hc : c = '\\'
  · exact .inl hc
  · by_cases htag : c = '[' ∧ opensTag s = true
    · exact .inr (.inl htag)
    · exact .inr (.inr ⟨hc, fun hbracket => by simpa [hbracket] using htag⟩)

end Tags

section Escape

variable {s : List Char}

theorem escapeTagsAfter_backslash (run : Nat) (s : List Char) :
    escapeTagsAfter run ('\\' :: s) = escapeTagsAfter (run + 1) s := by
  rw [escapeTagsAfter, if_pos rfl]

theorem escapeTagsAfter_run (run more : Nat) (s : List Char) :
    escapeTagsAfter run (List.replicate more '\\' ++ s) = escapeTagsAfter (run + more) s := by
  induction more generalizing run with
  | zero => rfl
  | succ more ih =>
      rw [List.replicate_succ, List.cons_append, escapeTagsAfter_backslash, ih]
      congr 1
      omega

theorem escapeTagsAfter_tag (h : opensTag s = true) (run : Nat) :
    escapeTagsAfter run ('[' :: s) =
      List.replicate (2 * run + 1) '\\' ++ '[' :: escapeTagsAfter 0 s := by
  simp [escapeTagsAfter, h]

theorem escapeTagsAfter_other {c : Char} (hc : c ≠ '\\') (htag : c = '[' → opensTag s = false)
    (run : Nat) :
    escapeTagsAfter run (c :: s) = List.replicate run '\\' ++ c :: escapeTagsAfter 0 s := by
  have hno : (decide (c = '[') && opensTag s) = false := by
    by_cases hbracket : c = '['
    · simp [htag hbracket]
    · simp [hbracket]
  simp [escapeTagsAfter, hc, hno]

theorem any_head?_run_append (run : Nat) (t : List Char) :
    (List.replicate run '\\' ++ t).head?.any startsTag = (run == 0 && t.head?.any startsTag) := by
  cases run with
  | zero => rfl
  | succ run => exact (by decide : startsTag '\\' = false)

theorem any_head?_escapeTagsAfter (run : Nat) (s : List Char) :
    (escapeTagsAfter run s).head?.any startsTag = (run == 0 && s.head?.any startsTag) := by
  induction s generalizing run with
  | nil => simpa [escapeTagsAfter] using any_head?_run_append run []
  | cons c s ih =>
      obtain rfl | ⟨rfl, hopens⟩ | ⟨hc, htag⟩ := next_cases c s
      · rw [escapeTagsAfter_backslash, ih]
        simp [(by decide : startsTag '\\' = false)]
      · rw [escapeTagsAfter_tag hopens, any_head?_run_append]
        simp [(by decide : startsTag '[' = false)]
      · rw [escapeTagsAfter_other hc htag, any_head?_run_append]
        rfl

theorem find?_run_append (run : Nat) (t : List Char) :
    (List.replicate run '\\' ++ t).find? isBracket = t.find? isBracket := by
  have hnone : (List.replicate run '\\').find? isBracket = none :=
    List.find?_eq_none.mpr fun c hc => by
      rw [List.eq_of_mem_replicate hc]
      decide
  rw [List.find?_append, hnone, Option.none_or]

theorem find?_escapeTagsAfter (run : Nat) (s : List Char) :
    (escapeTagsAfter run s).find? isBracket = s.find? isBracket := by
  induction s generalizing run with
  | nil => simpa [escapeTagsAfter] using find?_run_append run []
  | cons c s ih =>
      obtain rfl | ⟨rfl, hopens⟩ | ⟨hc, htag⟩ := next_cases c s
      · rw [escapeTagsAfter_backslash, ih, List.find?_cons_of_neg (by decide)]
      · rw [escapeTagsAfter_tag hopens, find?_run_append]
        rfl
      · rw [escapeTagsAfter_other hc htag, find?_run_append, List.find?_cons, List.find?_cons, ih]

theorem opensTag_escapeTags (s : List Char) : opensTag (escapeTags s) = opensTag s := by
  rw [opensTag_eq, opensTag_eq, escapeTags, any_head?_escapeTagsAfter, find?_escapeTagsAfter]
  rfl

theorem escapeTagsAfter_append_run (run more : Nat) (s : List Char) :
    escapeTagsAfter run (s ++ List.replicate more '\\') =
      escapeTagsAfter run s ++ List.replicate more '\\' := by
  have hapart : Apart (List.replicate more '\\') := by
    simp [Apart]
  induction s generalizing run with
  | nil =>
      have hrun := escapeTagsAfter_run run more []
      rw [List.append_nil] at hrun
      rw [List.nil_append, hrun, escapeTagsAfter, escapeTagsAfter, List.replicate_append_replicate]
  | cons c s ih =>
      rw [List.cons_append]
      obtain rfl | ⟨rfl, hopens⟩ | ⟨hc, htag⟩ := next_cases c s
      · rw [escapeTagsAfter_backslash, escapeTagsAfter_backslash, ih]
      · rw [escapeTagsAfter_tag hopens, escapeTagsAfter_tag ((opensTag_append hapart s).trans hopens),
          ih, List.append_assoc, List.cons_append]
      · rw [escapeTagsAfter_other hc htag, escapeTagsAfter_other hc fun hbracket =>
            (opensTag_append hapart s).trans (htag hbracket), ih, List.append_assoc,
          List.cons_append]

theorem getLast?_escapeTagsAfter (run : Nat)
    (h : (List.replicate run '\\' ++ s).getLast? ≠ some '\\') :
    (escapeTagsAfter run s).getLast? ≠ some '\\' := by
  induction s generalizing run with
  | nil => simpa [escapeTagsAfter] using h
  | cons c s ih =>
      have hnext : ∀ before, c ≠ '\\' → s.getLast? ≠ some '\\' →
          (before ++ c :: escapeTagsAfter 0 s).getLast? ≠ some '\\' := by
        intro before hc hs
        have hrest := ih 0 hs
        cases hlast : (escapeTagsAfter 0 s).getLast? with
        | none => simpa [List.getLast?_append, List.getLast?_cons, hlast] using hc
        | some d =>
            rw [hlast] at hrest
            simpa [List.getLast?_append, List.getLast?_cons, hlast] using hrest
      obtain rfl | ⟨rfl, hopens⟩ | ⟨hc, htag⟩ := next_cases c s
      · rw [replicate_append_cons] at h
        rw [escapeTagsAfter_backslash]
        exact ih (run + 1) h
      · rw [escapeTagsAfter_tag hopens]
        exact hnext _ (by decide) (getLast?_of_append_cons h)
      · rw [escapeTagsAfter_other hc htag]
        exact hnext _ hc (getLast?_of_append_cons h)

end Escape

section Reading

variable {s style rest : List Char}

theorem spansAfter_backslash (run : Nat) (rest : List Char) :
    spansAfter run ('\\' :: rest) = spansAfter (run + 1) rest := by
  rw [spansAfter, if_pos rfl]

theorem spansAfter_run (run more : Nat) (rest : List Char) :
    spansAfter run (List.replicate more '\\' ++ rest) = spansAfter (run + more) rest := by
  induction more generalizing run with
  | zero => rfl
  | succ more ih =>
      rw [List.replicate_succ, List.cons_append, spansAfter_backslash, ih]
      congr 1
      omega

theorem spansAfter_other {c : Char} (hc : c ≠ '\\') (htag : c = '[' → opensTag rest = false)
    (run : Nat) :
    spansAfter run (c :: rest) =
      literalSpans (List.replicate run '\\') ++ .shown c :: spansAfter 0 rest := by
  have hno : ¬ (c = '[' ∧ opensTag rest = true) := by
    rintro ⟨hbracket, hopens⟩
    simp [htag hbracket] at hopens
  rw [spansAfter, if_neg hc, if_neg hno, literalSpans, List.map_replicate]

theorem spansAfter_tag (h : IsStyle style) (run : Nat) (rest : List Char) :
    spansAfter run ('[' :: (style ++ ']' :: rest)) =
      literalSpans (List.replicate (run / 2) '\\') ++
        (if run % 2 = 1 then literalSpans ('[' :: style ++ [']'])
         else [.tag (String.ofList style)]) ++ spansAfter 0 rest := by
  have hopens : opensTag (style ++ ']' :: rest) = true := opensTag_iff.mpr ⟨style, rest, rfl, h⟩
  have htake := takeWhile_of_isStyle h rest
  have hdrop : (style ++ ']' :: rest).drop (style.length + 1) = rest := by
    simp
  rw [spansAfter, if_neg (by decide), if_pos ⟨rfl, hopens⟩]
  simp only [htake, hdrop, literalSpans, List.map_replicate]

theorem spansAfter_plain (hs : '[' ∉ s) (run : Nat)
    (hend : (List.replicate run '\\' ++ s).getLast? ≠ some '\\') (rest : List Char) :
    spansAfter run (s ++ rest) =
      literalSpans (List.replicate run '\\' ++ s) ++ spansAfter 0 rest := by
  induction s generalizing run with
  | nil =>
      obtain rfl := eq_zero_of_getLast?_run hend
      rfl
  | cons c s ih =>
      rw [List.mem_cons, not_or] at hs
      by_cases hc : c = '\\'
      · subst hc
        rw [replicate_append_cons] at hend ⊢
        rw [List.cons_append, spansAfter_backslash, ih hs.2 (run + 1) hend]
      · have hrest : s.getLast? ≠ some '\\' := getLast?_of_append_cons hend
        rw [List.cons_append, spansAfter_other hc fun hbracket => absurd hbracket.symm hs.1,
          ih hs.2 0 hrest]
        simp [literalSpans]

theorem spansAfter_escaped (h : opensTag rest = true) (run : Nat) :
    spansAfter (2 * run + 1) ('[' :: rest) =
      literalSpans (List.replicate run '\\') ++ .shown '[' :: spansAfter 0 rest := by
  obtain ⟨style, rest, rfl, hstyle⟩ := opensTag_iff.mp h
  have hread := spansAfter_plain (bracket_notMem_of_isStyle hstyle) 0 (by simp) rest
  rw [List.append_assoc, List.singleton_append] at hread
  rw [spansAfter_tag hstyle, hread, if_pos (by omega), show (2 * run + 1) / 2 = run by omega]
  simp [literalSpans]

theorem spansAfter_escapeTagsAfter (hrest : Apart rest) (run : Nat)
    (hend : (List.replicate run '\\' ++ s).getLast? ≠ some '\\') :
    spansAfter 0 (escapeTagsAfter run s ++ rest) =
      literalSpans (List.replicate run '\\' ++ s) ++ spansAfter 0 rest := by
  induction s generalizing run with
  | nil =>
      obtain rfl := eq_zero_of_getLast?_run hend
      rfl
  | cons c s ih =>
      have hopens : opensTag (escapeTagsAfter 0 s ++ rest) = opensTag s := by
        rw [opensTag_append hrest, ← escapeTags, opensTag_escapeTags]
      obtain rfl | ⟨rfl, htag⟩ | ⟨hc, htag⟩ := next_cases c s
      · rw [replicate_append_cons] at hend ⊢
        rw [escapeTagsAfter_backslash, ih (run + 1) hend]
      · have hnext : s.getLast? ≠ some '\\' := getLast?_of_append_cons hend
        rw [escapeTagsAfter_tag htag, List.append_assoc, spansAfter_run, Nat.zero_add,
          List.cons_append, spansAfter_escaped (hopens.trans htag), ih 0 hnext]
        simp [literalSpans]
      · have hnext : s.getLast? ≠ some '\\' := getLast?_of_append_cons hend
        rw [escapeTagsAfter_other hc htag, List.append_assoc, spansAfter_run, Nat.zero_add,
          List.cons_append, spansAfter_other hc fun hbracket => hopens.trans (htag hbracket),
          ih 0 hnext]
        simp [literalSpans]

end Reading

section EscapeMarkup

variable {body s t rest : List Char}

theorem closeMarkup_escapeTags_append (h : body.getLast? ≠ some '\\') (run : Nat) :
    closeMarkup (escapeTags (body ++ List.replicate run '\\')) =
      escapeTags body ++ List.replicate (closedRun run) '\\' := by
  rw [escapeTags, escapeTagsAfter_append_run]
  exact closeMarkup_append (getLast?_escapeTagsAfter 0 h) run

theorem closeMarkup_escapeTags (s : List Char) :
    closeMarkup (escapeTags s) = escapeTags (closeMarkup s) := by
  obtain ⟨body, hbody, hs⟩ := exists_eq_append_run s
  rw [hs, closeMarkup_escapeTags_append hbody, closeMarkup_append hbody, escapeTags, escapeTags,
    escapeTagsAfter_append_run]

/-- Escaped text in front of other markup. All of it shows as it is up to the backslashes at its
end, which the markup that follows comes after. -/
theorem spansAfter_escapeMarkup (hbody : body.getLast? ≠ some '\\') (hrest : Apart rest)
    (run : Nat) :
    spansAfter 0 (closeMarkup (escapeTags (body ++ List.replicate run '\\')) ++ rest) =
      literalSpans body ++ spansAfter (closedRun run) rest := by
  have hapart : Apart (List.replicate (closedRun run) '\\' ++ rest) := by
    rwa [Apart, find?_run_append]
  rw [closeMarkup_escapeTags_append hbody, List.append_assoc, escapeTags,
    spansAfter_escapeTagsAfter hapart 0 hbody, spansAfter_run, Nat.zero_add]
  rfl

theorem spansAfter_escapeTags (s : List Char) : spansAfter 0 (escapeTags s) = literalSpans s := by
  obtain ⟨body, hbody, hs⟩ := exists_eq_append_run s
  have hapart : Apart (List.replicate (endRun s) '\\' ++ []) := by
    simp [Apart]
  have hread := spansAfter_escapeTagsAfter hapart 0 hbody
  rw [spansAfter_run] at hread
  rw [hs, escapeTags, escapeTagsAfter_append_run]
  simpa [spansAfter, literalSpans] using hread

@[simp] theorem filterMap_shown?_tag_cons (style : String) (spans : List Span) :
    (.tag style :: spans).filterMap Span.shown? = spans.filterMap Span.shown? := rfl

@[simp] theorem filterMap_shown?_literalSpans (s : List Char) :
    (literalSpans s).filterMap Span.shown? = s := by
  rw [literalSpans, List.filterMap_map]
  exact List.filterMap_some

theorem literalSpans_injective (h : literalSpans s = literalSpans t) : s = t :=
  (List.map_inj_right fun _ _ => Span.shown.inj).mp h

theorem escapeTags_injective (h : escapeTags s = escapeTags t) : s = t := by
  apply literalSpans_injective
  rw [← spansAfter_escapeTags, ← spansAfter_escapeTags, h]

theorem escapeMarkup_eq_iff {a b : String} :
    escapeMarkup a = escapeMarkup b ↔
      a = b ∨ endRun a.toList = 1 ∧ b = a ++ "\\" ∨ endRun b.toList = 1 ∧ a = b ++ "\\" := by
  have hlist : escapeMarkup a = escapeMarkup b ↔ closeMarkup a.toList = closeMarkup b.toList := by
    rw [← String.toList_inj, toList_escapeMarkup, toList_escapeMarkup, closeMarkup_escapeTags,
      closeMarkup_escapeTags]
    exact ⟨escapeTags_injective, congrArg escapeTags⟩
  have hconcat : ∀ c d : String, d.toList = c.toList ++ ['\\'] ↔ d = c ++ "\\" := by
    intro c d
    rw [← String.toList_inj, String.toList_append]
    rfl
  rw [hlist, closeMarkup_eq_iff, String.toList_inj, hconcat, hconcat]

end EscapeMarkup

end HeaderConstants.Text
