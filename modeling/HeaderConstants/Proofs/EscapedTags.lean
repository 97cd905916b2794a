import HeaderConstants.Proofs.MarkupSpans
import Mathlib.Data.List.Basic

/-!
Where tags stand in a text, and which of them backslashes escape. Escaping leaves no tag unescaped.
It is a rewriting of the backslashes in front of tags, from the start of the text on, and halving
them again undoes it.
-/

namespace HeaderConstants.Text

section Tags

variable {s t p before style tag : List Char} {c : Char}

/-- A tag stands in a text behind `before`. -/
def HasTag (s before style : List Char) : Prop :=
  IsStyle style ∧ ∃ after, s = before ++ '[' :: (style ++ ']' :: after)

/-- A tag that no backslash escapes. -/
def HasActiveTag (s before style : List Char) : Prop :=
  HasTag s before style ∧ endRun before % 2 = 0

theorem append_inj_of_isStyle (hs : IsStyle style) (ht : IsStyle tag)
    (h : style ++ ']' :: s = tag ++ ']' :: t) : style = tag ∧ s = t := by
  have hstyle : style = tag := by
    rw [← takeWhile_of_isStyle hs s, h, takeWhile_of_isStyle ht]
  subst hstyle
  simpa using h

theorem hasTag_cons_iff :
    HasTag (c :: s) before style ↔
      (before = [] ∧ c = '[' ∧ IsStyle style ∧ ∃ after, s = style ++ ']' :: after) ∨
        ∃ b, before = c :: b ∧ HasTag s b style := by
  cases before with
  | nil => simp [HasTag, and_left_comm]
  | cons d before => simp [HasTag, and_left_comm, eq_comm]

theorem hasTag_append_iff (hp : '[' ∉ p) :
    HasTag (p ++ s) before style ↔ ∃ b, before = p ++ b ∧ HasTag s b style := by
  induction p generalizing before with
  | nil => simp
  | cons c p ih =>
      rw [List.mem_cons, not_or] at hp
      rw [List.cons_append, hasTag_cons_iff]
      simp [ih hp.2, Ne.symm hp.1]

theorem not_hasTag_run (n : Nat) : ¬ HasTag (List.replicate n '\\') before style := by
  rintro ⟨-, after, hs⟩
  have hmem : '[' ∈ List.replicate n '\\' := by
    rw [hs]
    simp
  exact absurd (List.eq_of_mem_replicate hmem) (by decide)

theorem hasTag_tag_iff (h : IsStyle style) :
    HasTag ('[' :: (style ++ ']' :: s)) before tag ↔
      (before = [] ∧ tag = style) ∨
        ∃ b, before = '[' :: (style ++ ']' :: b) ∧ HasTag s b tag := by
  have hrest : ∀ before, HasTag (style ++ ']' :: s) before tag ↔
      ∃ b, before = style ++ ']' :: b ∧ HasTag s b tag := by
    intro before
    have hsplit : HasTag (style ++ [']'] ++ s) before tag ↔ _ :=
      hasTag_append_iff (bracket_notMem_of_isStyle h)
    simpa using hsplit
  rw [hasTag_cons_iff]
  constructor
  · rintro (⟨hbefore, -, htag, after, hs⟩ | ⟨b, hb, htag⟩)
    · exact .inl ⟨hbefore, (append_inj_of_isStyle h htag hs).1.symm⟩
    · obtain ⟨d, rfl, hfound⟩ := (hrest _).mp htag
      exact .inr ⟨d, hb, hfound⟩
  · rintro (⟨rfl, rfl⟩ | ⟨b, hb, htag⟩)
    · exact .inl ⟨rfl, rfl, h, s, rfl⟩
    · exact .inr ⟨_, hb, (hrest _).mpr ⟨b, rfl, htag⟩⟩

theorem hasActiveTag_append_iff (hp : '[' ∉ p) (hend : p.getLast? ≠ some '\\') :
    HasActiveTag (p ++ s) before style ↔ ∃ b, before = p ++ b ∧ HasActiveTag s b style := by
  rw [HasActiveTag, hasTag_append_iff hp]
  constructor
  · rintro ⟨⟨b, rfl, htag⟩, hrun⟩
    rw [endRun_append hend] at hrun
    exact ⟨b, rfl, htag, hrun⟩
  · rintro ⟨b, rfl, htag, hrun⟩
    rw [← endRun_append hend] at hrun
    exact ⟨⟨b, rfl, htag⟩, hrun⟩

theorem hasActiveTag_tag_iff (h : IsStyle style) :
    HasActiveTag ('[' :: (style ++ ']' :: s)) before tag ↔
      (before = [] ∧ tag = style) ∨
        ∃ b, before = '[' :: (style ++ ']' :: b) ∧ HasActiveTag s b tag := by
  have hrun : ∀ b, endRun ('[' :: (style ++ ']' :: b)) = endRun b := by
    intro b
    rw [← List.cons_append, endRun_append_cons (by decide)]
  rw [HasActiveTag, hasTag_tag_iff h]
  constructor
  · rintro ⟨⟨rfl, rfl⟩ | ⟨b, rfl, htag⟩, heven⟩
    · exact .inl ⟨rfl, rfl⟩
    · rw [hrun] at heven
      exact .inr ⟨b, rfl, htag, heven⟩
  · rintro (⟨rfl, rfl⟩ | ⟨b, rfl, htag, heven⟩)
    · exact ⟨.inl ⟨rfl, rfl⟩, rfl⟩
    · rw [← hrun] at heven
      exact ⟨.inr ⟨b, rfl, htag⟩, heven⟩

end Tags

section Resizing

variable {width : Nat → Nat} {s t u style : List Char} {c : Char}

/-- A text begins with a tag, or with backslashes and a tag right behind them. -/
def BeginsTag (s : List Char) : Prop :=
  ∃ run style, HasTag s (List.replicate run '\\') style

/-- A text gone through from its start, with `width run` backslashes put in front of each tag that
has `run`. A tag is found together with all the backslashes in front of it. -/
inductive Resized (width : Nat → Nat) : List Char → List Char → Prop
  | nil : Resized width [] []
  | tag {s t style : List Char} (run : Nat) (hstyle : IsStyle style) (rest : Resized width s t) :
      Resized width (List.replicate run '\\' ++ '[' :: (style ++ ']' :: s))
        (List.replicate (width run) '\\' ++ '[' :: (style ++ ']' :: t))
  | other {s t : List Char} {c : Char} (hno : ¬ BeginsTag (c :: s)) (rest : Resized width s t) :
      Resized width (c :: s) (c :: t)

theorem beginsTag_tag (run : Nat) (hstyle : IsStyle style) (s : List Char) :
    BeginsTag (List.replicate run '\\' ++ '[' :: (style ++ ']' :: s)) :=
  ⟨run, style, hstyle, s, rfl⟩

theorem beginsTag_of_opensTag (h : opensTag s = true) : BeginsTag ('[' :: s) := by
  obtain ⟨style, rest, rfl, hstyle⟩ := opensTag_iff.mp h
  exact beginsTag_tag 0 hstyle rest

theorem BeginsTag.backslash (h : BeginsTag s) : BeginsTag ('\\' :: s) := by
  obtain ⟨run, style, hstyle, rest, rfl⟩ := h
  exact beginsTag_tag (run + 1) hstyle rest

theorem not_beginsTag_run_append_cons (hc : c ≠ '\\') (htag : c = '[' → opensTag s = false)
    (run : Nat) : ¬ BeginsTag (List.replicate run '\\' ++ c :: s) := by
  have hplain : '[' ∉ List.replicate run '\\' := by
    simp
  rintro ⟨more, style, h⟩
  obtain ⟨b, hb, h⟩ := (hasTag_append_iff hplain).mp h
  obtain ⟨-, rfl, hstyle, rest, rfl⟩ | ⟨d, rfl, -⟩ := hasTag_cons_iff.mp h
  · exact absurd (opensTag_iff.mpr ⟨style, rest, rfl, hstyle⟩) (by simp [htag rfl])
  · have hmem : c ∈ List.replicate more '\\' := by
      rw [hb]
      simp
    exact hc (List.eq_of_mem_replicate hmem)

/-- A text is a sequence of tags, each with the backslashes in front of it, and other characters. -/
theorem tags_induction {motive : List Char → Prop} (nil : motive [])
    (tag : ∀ run style s, IsStyle style → motive s →
      motive (List.replicate run '\\' ++ '[' :: (style ++ ']' :: s)))
    (other : ∀ c s, ¬ BeginsTag (c :: s) → motive s → motive (c :: s)) (s : List Char) :
    motive s := by
  induction hn : s.length using Nat.strongRecOn generalizing s with
  | ind n ih =>
      by_cases hbegins : BeginsTag s
      · obtain ⟨run, style, hstyle, rest, rfl⟩ := hbegins
        refine tag run style rest hstyle (ih rest.length ?_ rest rfl)
        rw [← hn]
        simp
        omega
      · cases s with
        | nil => exact nil
        | cons c s => exact other c s hbegins (ih s.length (by simp [← hn]) s rfl)

theorem escapeTagsAfter_plain (hs : '[' ∉ s) (run : Nat)
    (hend : (List.replicate run '\\' ++ s).getLast? ≠ some '\\') (rest : List Char) :
    escapeTagsAfter run (s ++ rest) =
      List.replicate run '\\' ++ s ++ escapeTags rest := by
  induction s generalizing run with
  | nil =>
      obtain rfl := eq_zero_of_getLast?_run hend
      rfl
  | cons c s ih =>
      rw [List.mem_cons, not_or] at hs
      by_cases hc : c = '\\'
      · subst hc
        rw [replicate_append_cons] at hend ⊢
        rw [List.cons_append, escapeTagsAfter_backslash, ih hs.2 (run + 1) hend]
      · have hrest : s.getLast? ≠ some '\\' := getLast?_of_append_cons hend
        rw [List.cons_append, escapeTagsAfter_other hc fun hbracket => absurd hbracket.symm hs.1,
          ih hs.2 0 hrest]
        simp

theorem escapeTags_tag (run : Nat) (hstyle : IsStyle style) (s : List Char) :
    escapeTags (List.replicate run '\\' ++ '[' :: (style ++ ']' :: s)) =
      List.replicate (2 * run + 1) '\\' ++ '[' :: (style ++ ']' :: escapeTags s) := by
  have hopens : opensTag (style ++ ']' :: s) = true := opensTag_iff.mpr ⟨style, s, rfl, hstyle⟩
  have hplain := escapeTagsAfter_plain (bracket_notMem_of_isStyle hstyle) 0 (by simp) s
  rw [List.append_assoc, List.singleton_append] at hplain
  rw [escapeTags, escapeTagsAfter_run, escapeTagsAfter_tag hopens, hplain]
  simp

theorem escapeTagsAfter_of_not_beginsTag (h : ¬ BeginsTag s) (run : Nat) :
    escapeTagsAfter run s = List.replicate run '\\' ++ escapeTags s := by
  induction s generalizing run with
  | nil => simp [escapeTags, escapeTagsAfter]
  | cons c s ih =>
      obtain rfl | ⟨rfl, hopens⟩ | ⟨hc, htag⟩ := next_cases c s
      · have hrest : ¬ BeginsTag s := fun hbegins => h hbegins.backslash
        rw [escapeTags, escapeTagsAfter_backslash, escapeTagsAfter_backslash, ih hrest, ih hrest,
          ← List.append_assoc, List.replicate_append_replicate]
      · exact absurd (beginsTag_of_opensTag hopens) h
      · rw [escapeTags, escapeTagsAfter_other hc htag, escapeTagsAfter_other hc htag]
        rfl

theorem escapeTags_other (h : ¬ BeginsTag (c :: s)) : escapeTags (c :: s) = c :: escapeTags s := by
  obtain rfl | ⟨rfl, hopens⟩ | ⟨hc, htag⟩ := next_cases c s
  · have hrest : ¬ BeginsTag s := fun hbegins => h hbegins.backslash
    rw [escapeTags, escapeTagsAfter_backslash, escapeTagsAfter_of_not_beginsTag hrest]
    rfl
  · exact absurd (beginsTag_of_opensTag hopens) h
  · rw [escapeTags, escapeTagsAfter_other hc htag]
    rfl

theorem not_beginsTag_escapeTagsAfter (h : ¬ BeginsTag s) (run : Nat) :
    ¬ BeginsTag (escapeTagsAfter run s) := by
  induction s generalizing run with
  | nil =>
      rintro ⟨more, style, htag⟩
      exact not_hasTag_run run htag
  | cons c s ih =>
      obtain rfl | ⟨rfl, hopens⟩ | ⟨hc, htag⟩ := next_cases c s
      · rw [escapeTagsAfter_backslash]
        exact ih (fun hbegins => h hbegins.backslash) (run + 1)
      · exact absurd (beginsTag_of_opensTag hopens) h
      · rw [escapeTagsAfter_other hc htag]
        exact not_beginsTag_run_append_cons hc
          (fun hbracket => (opensTag_escapeTags s).trans (htag hbracket)) run

theorem resized_escapeTags (s : List Char) : Resized (2 * · + 1) s (escapeTags s) := by
  induction s using tags_induction with
  | nil => exact .nil
  | tag run style s hstyle ih =>
      rw [escapeTags_tag run hstyle]
      exact .tag run hstyle ih
  | other c s hno ih =>
      rw [escapeTags_other hno]
      exact .other hno ih

/-- Halving the backslashes in front of each tag undoes the escaping. -/
theorem resized_half_escapeTags (s : List Char) : Resized (· / 2) (escapeTags s) s := by
  induction s using tags_induction with
  | nil => exact .nil
  | tag run style s hstyle ih =>
      have hhalf : (2 * run + 1) / 2 = run := by
        omega
      have hresized : Resized (· / 2) _ _ := .tag (2 * run + 1) hstyle ih
      rwa [hhalf, ← escapeTags_tag run hstyle] at hresized
  | other c s hno ih =>
      have hescaped := not_beginsTag_escapeTagsAfter hno 0
      rw [← escapeTags, escapeTags_other hno] at hescaped
      rw [escapeTags_other hno]
      exact .other hescaped ih

theorem run_append_inj {run more : Nat}
    (h : List.replicate run '\\' ++ '[' :: s = List.replicate more '\\' ++ '[' :: t) :
    run = more ∧ s = t := by
  induction run generalizing more with
  | zero =>
      cases more with
      | zero => simpa using h
      | succ more => simp [List.replicate_succ] at h
  | succ run ih =>
      cases more with
      | zero => simp [List.replicate_succ] at h
      | succ more => simpa using ih (by simpa [List.replicate_succ] using h)

theorem Resized.unique (h : Resized width s t) (h' : Resized width s u) : t = u := by
  induction h generalizing u with
  | nil =>
      generalize hs : ([] : List Char) = text at h'
      cases h' with
      | nil => rfl
      | tag => simp at hs
      | other => simp at hs
  | @tag s t style run hstyle rest ih =>
      generalize hs : List.replicate run '\\' ++ '[' :: (style ++ ']' :: s) = text at h'
      cases h' with
      | nil => simp at hs
      | tag more hother rest' =>
          obtain ⟨rfl, hinner⟩ := run_append_inj hs
          obtain ⟨rfl, rfl⟩ := append_inj_of_isStyle hstyle hother hinner
          rw [ih rest']
      | other hno => exact absurd (hs ▸ beginsTag_tag run hstyle s) hno
  | @other s t c hno rest ih =>
      generalize hs : c :: s = text at h'
      cases h' with
      | nil => simp at hs
      | tag more hother => exact absurd (hs ▸ beginsTag_tag more hother _) hno
      | other hno' rest' =>
          obtain ⟨rfl, rfl⟩ := List.cons.inj hs
          rw [ih rest']

end Resizing

section Escaping

variable {s : List Char}

/-- Every tag is behind an odd number of backslashes. -/
def AllEscaped (s : List Char) : Prop :=
  ∀ before style, HasTag s before style → endRun before % 2 = 1

theorem allEscaped_iff : AllEscaped s ↔ ∀ before style, ¬ HasActiveTag s before style := by
  refine forall₂_congr fun before style => ?_
  rw [HasActiveTag, not_and]
  refine imp_congr_right fun _ => ?_
  omega

/-- Behind any text that ends without a backslash, escaped tags stay escaped, even if the text opens
a tag that ends in them. -/
theorem HasActiveTag.length_lt {front rest before style : List Char}
    (h : HasActiveTag (front ++ rest) before style) (hrest : AllEscaped rest)
    (hend : front.getLast? ≠ some '\\') : before.length < front.length := by
  obtain ⟨⟨hstyle, after, hs⟩, heven⟩ := h
  by_contra hle
  obtain ⟨b, rfl, hb⟩ : ∃ b, before = front ++ b ∧ rest = b ++ '[' :: (style ++ ']' :: after) := by
    obtain ⟨b, hbefore, hb⟩ | ⟨b, rfl, hb⟩ := List.append_eq_append_iff.mp hs
    · exact ⟨b, hbefore, hb⟩
    · obtain rfl : b = [] := by simpa using hle
      exact ⟨[], by simp, by simpa using hb.symm⟩
  rw [endRun_append hend] at heven
  have hodd := hrest b style ⟨hstyle, after, hb⟩
  omega

theorem allEscaped_escapeTagsAfter (run : Nat) (s : List Char) :
    AllEscaped (escapeTagsAfter run s) := by
  have hplain : ∀ run, '[' ∉ List.replicate run '\\' := by
    simp
  induction s generalizing run with
  | nil =>
      intro before style htag
      exact absurd htag (not_hasTag_run run)
  | cons c s ih =>
      intro before style htag
      obtain rfl | ⟨rfl, hopens⟩ | ⟨hc, hno⟩ := next_cases c s
      · rw [escapeTagsAfter_backslash] at htag
        exact ih (run + 1) before style htag
      · rw [escapeTagsAfter_tag hopens, hasTag_append_iff (hplain _)] at htag
        obtain ⟨b, rfl, htag⟩ := htag
        obtain ⟨rfl, -⟩ | ⟨d, rfl, hrest⟩ := hasTag_cons_iff.mp htag
        · rw [List.append_nil, endRun_replicate]
          omega
        · rw [endRun_append_cons (by decide)]
          exact ih 0 d style hrest
      · rw [escapeTagsAfter_other hc hno, hasTag_append_iff (hplain _)] at htag
        obtain ⟨b, rfl, htag⟩ := htag
        obtain ⟨-, hbracket, hstyle, after, hs⟩ | ⟨d, rfl, hrest⟩ := hasTag_cons_iff.mp htag
        · have hopens : opensTag (escapeTags s) = true :=
            opensTag_iff.mpr ⟨style, after, hs, hstyle⟩
          rw [opensTag_escapeTags, hno hbracket] at hopens
          exact nomatch hopens
        · rw [endRun_append_cons hc]
          exact ih 0 d style hrest

theorem allEscaped_escapeMarkup (s : String) : AllEscaped (escapeMarkup s).toList := by
  rw [toList_escapeMarkup, closeMarkup_escapeTags]
  exact allEscaped_escapeTagsAfter 0 _

end Escaping

end HeaderConstants.Text
