import HeaderConstants.Host.Reference
import HeaderConstants.Proofs.FamilyChoice
import HeaderConstants.Session
import Mathlib.Data.List.Induction

/-!
The resolver that a session keeps. A history of steps has a first built table if a question since
the last drop could build one; the first such question decides, by the surroundings of its time. A
session keeps just that table and answers all questions from it.
-/

namespace HeaderConstants

namespace Session.Step

/-- What a step asks a resolver, if it is a question. -/
def question? : Step → Option (Resolver → Answer)
  | .resolve name => some fun resolver => .value (resolver.resolve name)
  | .require name => some fun resolver =>
      match resolver.require name with
      | .ok value => .value (some value)
      | .error failure => .failure failure
  | .word name => some fun resolver => .value (some (resolver.toWord name))
  | .resolver => some .resolver
  | _ => none

/-- The surroundings after a step, whatever became of the session. -/
def move (around : Surroundings) : Step → Surroundings
  | .set v value => { around with settings := around.settings.set value v }
  | .moveTo system => { around with host.system := system }
  | _ => around

end Session.Step

namespace Surroundings

/-- The surroundings after a history of steps. -/
def after (around : Surroundings) (steps : List Session.Step) : Surroundings :=
  steps.foldl Session.Step.move around

theorem after_append (around : Surroundings) (steps others : List Session.Step) :
    around.after (steps ++ others) = (around.after steps).after others :=
  List.foldl_append

end Surroundings

namespace Session

open Step

variable {session : Session} {next : Step} {question : Resolver → Answer}

theorem after_append (session : Session) (steps others : List Step) :
    session.after (steps ++ others) = (session.after steps).after others :=
  List.foldl_append

theorem replies_append (session : Session) (steps others : List Step) :
    session.replies (steps ++ others) =
      session.replies steps ++ (session.after steps).replies others := by
  induction steps generalizing session with
  | nil => rfl
  | cons first rest ih =>
      rw [List.cons_append, replies, replies, ih, after_cons, List.cons_append]

theorem step_of_question (h : next.question? = some question) :
    session.step next = session.ask question := by
  cases next with
  | resolve name => exact Option.some.inj h ▸ rfl
  | require name => exact Option.some.inj h ▸ rfl
  | word name => exact Option.some.inj h ▸ rfl
  | resolver => exact Option.some.inj h ▸ rfl
  | set | moveTo | dropResolver | activeFamily | build | setUpLog | log => nomatch h

theorem move_of_question (h : next.question? = some question) (around : Surroundings) :
    next.move around = around := by
  cases next with
  | set | moveTo => nomatch h
  | _ => rfl

/-- Apart from questions, only a drop touches the kept resolver, and only the steps that say so
change the surroundings. -/
theorem frame_of_no_question (h : next.question? = none) :
    (session.step next).session.around = next.move session.around ∧
      (next ≠ .dropResolver → (session.step next).session.kept = session.kept) := by
  cases next with
  | resolve | require | word | resolver => nomatch h
  | set v value => exact ⟨rfl, fun _ => rfl⟩
  | moveTo system => exact ⟨rfl, fun _ => rfl⟩
  | log logger level message => exact ⟨rfl, fun _ => rfl⟩
  | dropResolver => exact ⟨rfl, absurd rfl⟩
  | activeFamily =>
      rw [step]
      split <;> exact ⟨rfl, fun _ => rfl⟩
  | build family source =>
      simp only [step]
      split <;> exact ⟨rfl, fun _ => rfl⟩
  | setUpLog request =>
      rw [step]
      split <;> exact ⟨rfl, fun _ => rfl⟩

/-- A question is answered from the kept resolver, or from one that is built for it and kept, or
not at all. -/
theorem ask_cases (session : Session) (question : Resolver → Answer) :
    (∃ resolver, session.kept = some resolver ∧ (session.ask question).session = session ∧
      (session.ask question).answer = question resolver) ∨
    (∃ table, session.kept = none ∧ session.around.Provides table ∧
      (session.ask question).session = { session with kept := some ⟨table⟩ } ∧
      (session.ask question).answer = question ⟨table⟩) ∨
    ∃ text, session.kept = none ∧ session.around.settings.RefusesFamily text ∧
      (session.ask question).session = session ∧
      (session.ask question).answer = .failure (.unknownFamily text) := by
  cases hkept : session.kept with
  | some resolver =>
      refine .inl ⟨resolver, rfl, ?_⟩
      rw [ask_of_kept hkept]
      exact ⟨rfl, rfl⟩
  | none =>
      cases hbuild : (session.around.build none none).result with
      | ok table =>
          have hprovides := Surroundings.result_build_none_eq_ok_iff_provides.mp hbuild
          exact .inr (.inl ⟨table, rfl, hprovides, by simp [ask, hkept, hbuild]⟩)
      | error failure =>
          obtain ⟨-, text, hrefuses, rfl⟩ :=
            Surroundings.result_build_none_eq_error_iff.mp hbuild
          exact .inr (.inr ⟨text, rfl, hrefuses, by simp [ask, hkept, hbuild]⟩)

theorem around_ask (session : Session) (question : Resolver → Answer) :
    (session.ask question).session.around = session.around := by
  obtain ⟨_, -, hsession, -⟩ | ⟨_, -, -, hsession, -⟩ | ⟨_, -, -, hsession, -⟩ :=
    ask_cases session question
  all_goals rw [hsession]

theorem around_step (session : Session) (next : Step) :
    (session.step next).session.around = next.move session.around := by
  cases hquestion : next.question? with
  | none => exact (frame_of_no_question hquestion).1
  | some question =>
      rw [step_of_question hquestion, around_ask, move_of_question hquestion]

theorem kept_step_of_kept {resolver : Resolver} (h : session.kept = some resolver)
    (hdrop : next ≠ .dropResolver) : (session.step next).session.kept = some resolver := by
  cases hquestion : next.question? with
  | none => rw [(frame_of_no_question hquestion).2 hdrop, h]
  | some question => rw [step_of_question hquestion, ask_of_kept h, h]

theorem kept_after_of_kept {resolver : Resolver} (h : session.kept = some resolver)
    {steps : List Step} (hdrop : .dropResolver ∉ steps) :
    (session.after steps).kept = some resolver := by
  induction steps generalizing session with
  | nil => exact h
  | cons first rest ih =>
      rw [List.mem_cons, not_or] at hdrop
      rw [after_cons]
      exact ih (kept_step_of_kept h (Ne.symm hdrop.1)) hdrop.2

/-- Every question since the last drop found the environment naming an unknown family. -/
def Unbuilt (around : Surroundings) (steps : List Step) : Prop :=
  ∀ before next after, steps = before ++ next :: after → next.question? ≠ none →
    .dropResolver ∉ after → ∃ text, (around.after before).settings.RefusesFamily text

/-- The table that the surroundings gave when the first question came since the last drop that did
not find them naming an unknown family. -/
def FirstBuilt (around : Surroundings) (steps : List Step) (table : Table) : Prop :=
  ∃ before next after, steps = before ++ next :: after ∧ next.question? ≠ none ∧
    .dropResolver ∉ after ∧ Unbuilt around before ∧ (around.after before).Provides table

section History

variable {around : Surroundings} {steps later : List Step} {last : Step} {table : Table}

theorem append_singleton_eq_append_cons {before after : List Step}
    (h : steps ++ [last] = before ++ next :: after) :
    (steps = before ∧ last = next ∧ after = []) ∨
      ∃ rest, steps = before ++ next :: rest ∧ after = rest ++ [last] := by
  rcases List.eq_nil_or_concat' after with rfl | ⟨rest, final, rfl⟩
  · obtain ⟨hsteps, hlast⟩ := List.append_inj' h rfl
    exact .inl ⟨hsteps, List.singleton_inj.mp hlast, rfl⟩
  · rw [← List.cons_append, ← List.append_assoc] at h
    obtain ⟨hsteps, hlast⟩ := List.append_inj' h rfl
    exact .inr ⟨rest, hsteps, by rw [hlast]⟩

theorem Unbuilt.nil (around : Surroundings) : Unbuilt around [] := by
  intro before next after h
  simp at h

theorem Unbuilt.append_drop (around : Surroundings) (steps : List Step) :
    Unbuilt around (steps ++ [.dropResolver]) := by
  intro before next after h hquestion hdrop
  rcases append_singleton_eq_append_cons h with ⟨-, rfl, -⟩ | ⟨rest, -, rfl⟩
  · exact absurd rfl hquestion
  · simp at hdrop

theorem Unbuilt.append_singleton (h : Unbuilt around steps)
    (hlast : last.question? ≠ none → ∃ text, (around.after steps).settings.RefusesFamily text) :
    Unbuilt around (steps ++ [last]) := by
  intro before next after heq hquestion hdrop
  rcases append_singleton_eq_append_cons heq with ⟨rfl, rfl, -⟩ | ⟨rest, rfl, rfl⟩
  · exact hlast hquestion
  · refine h before next rest rfl hquestion fun hmem => hdrop ?_
    exact List.mem_append_left _ hmem

theorem Unbuilt.firstBuilt (h : Unbuilt around steps) (hquestion : last.question? ≠ none)
    (hprovides : (around.after steps).Provides table) :
    FirstBuilt around (steps ++ [last]) table :=
  ⟨steps, last, [], rfl, hquestion, List.not_mem_nil, h, hprovides⟩

theorem FirstBuilt.append (h : FirstBuilt around steps table)
    (hdrop : .dropResolver ∉ later) : FirstBuilt around (steps ++ later) table := by
  obtain ⟨before, next, after, rfl, hquestion, hafter, hunbuilt, hprovides⟩ := h
  refine ⟨before, next, after ++ later, ?_, hquestion, ?_, hunbuilt, hprovides⟩
  · rw [List.append_assoc, List.cons_append]
  · rw [List.mem_append, not_or]
    exact ⟨hafter, hdrop⟩

theorem FirstBuilt.not_unbuilt (h : FirstBuilt around steps table) : ¬ Unbuilt around steps := by
  obtain ⟨before, next, after, rfl, hquestion, hafter, -, hprovides⟩ := h
  intro hunbuilt
  obtain ⟨text, hrefuses⟩ := hunbuilt before next after rfl hquestion hafter
  exact hprovides.not_refuses hrefuses

end History

/-- A session is where its history leads, and keeps just the table that was built first. -/
structure Recalls (around : Surroundings) (steps : List Step) (session : Session) : Prop where
  around_eq : session.around = around.after steps
  unbuilt : session.kept = none → Unbuilt around steps
  firstBuilt : ∀ resolver, session.kept = some resolver → FirstBuilt around steps resolver.table

namespace Recalls

variable {around : Surroundings} {steps : List Step}

theorem of_none (haround : session.around = around.after steps) (h : session.kept = none)
    (hunbuilt : Unbuilt around steps) : Recalls around steps session where
  around_eq := haround
  unbuilt _ := hunbuilt
  firstBuilt _ hsome := nomatch h.symm.trans hsome

theorem of_some {resolver : Resolver} (haround : session.around = around.after steps)
    (h : session.kept = some resolver) (hfirst : FirstBuilt around steps resolver.table) :
    Recalls around steps session where
  around_eq := haround
  unbuilt hnone := nomatch h.symm.trans hnone
  firstBuilt _ hsome := Option.some.inj (h.symm.trans hsome) ▸ hfirst

theorem step (h : Recalls around steps session) (next : Step) :
    Recalls around (steps ++ [next]) (session.step next).session := by
  have haround : (session.step next).session.around = around.after (steps ++ [next]) := by
    rw [around_step, h.around_eq, Surroundings.after_append]
    rfl
  by_cases hdrop : next = .dropResolver
  · subst hdrop
    exact of_none haround rfl (Unbuilt.append_drop around steps)
  · cases hkept : session.kept with
    | some resolver =>
        apply of_some haround (kept_step_of_kept hkept hdrop)
        refine (h.firstBuilt resolver hkept).append ?_
        rw [List.mem_singleton]
        exact Ne.symm hdrop
    | none =>
        have hunbuilt := h.unbuilt hkept
        cases hquestion : next.question? with
        | none =>
            apply of_none haround
            · rw [(frame_of_no_question hquestion).2 hdrop, hkept]
            · exact hunbuilt.append_singleton (absurd hquestion)
        | some question =>
            obtain ⟨resolver, hsome, -⟩ | ⟨table, -, hprovides, hsession, -⟩ |
              ⟨text, -, hrefuses, hsession, -⟩ := ask_cases session question
            · exact nomatch hkept.symm.trans hsome
            · have hnext : (session.step next).session.kept = some ⟨table⟩ := by
                rw [step_of_question hquestion, hsession]
              rw [h.around_eq] at hprovides
              exact of_some haround hnext (hunbuilt.firstBuilt (by simp [hquestion]) hprovides)
            · rw [h.around_eq] at hrefuses
              apply of_none haround
              · rw [step_of_question hquestion, hsession, hkept]
              · exact hunbuilt.append_singleton fun _ => ⟨text, hrefuses⟩

theorem after {start : Session} (hstart : start.kept = none) (steps : List Step) :
    Recalls start.around steps (start.after steps) := by
  -- A history grows at its end, where `Recalls.step` adds to it.
  induction steps using List.reverseRecOn with
  | nil => exact of_none rfl hstart (Unbuilt.nil start.around)
  | append_singleton steps next ih =>
      rw [after_append]
      exact ih.step next

end Recalls

section Answers

variable {start : Session} {steps : List Step} {table : Table}

theorem kept_after_of_firstBuilt (hstart : start.kept = none)
    (h : FirstBuilt start.around steps table) : (start.after steps).kept = some ⟨table⟩ := by
  obtain ⟨before, next, after, rfl, hasks, hafter, hunbuilt, hprovides⟩ := h
  have hrecalls := Recalls.after hstart before
  have hkept : (start.after before).kept = none := by
    refine Option.eq_none_iff_forall_ne_some.mpr fun resolver hsome => ?_
    exact (hrecalls.firstBuilt resolver hsome).not_unbuilt hunbuilt
  obtain ⟨question, hquestion⟩ := Option.ne_none_iff_exists'.mp hasks
  rw [← hrecalls.around_eq] at hprovides
  rw [after_append, after_cons]
  apply kept_after_of_kept _ hafter
  rw [step_of_question hquestion]
  obtain ⟨resolver, hsome, -⟩ | ⟨built, -, hbuilt, hsession, -⟩ | ⟨text, -, hrefuses, -⟩ :=
    ask_cases (start.after before) question
  · exact nomatch hkept.symm.trans hsome
  · rw [hsession, hbuilt.unique hprovides]
  · exact absurd hrefuses hprovides.not_refuses

theorem answer_of_kept_step {resolver : Resolver} (hquestion : next.question? = some question)
    (h : (session.step next).session.kept = some resolver) :
    (session.step next).answer = question resolver := by
  rw [step_of_question hquestion] at h ⊢
  obtain ⟨kept, hkept, hsession, hanswer⟩ | ⟨table, -, -, hsession, hanswer⟩ |
    ⟨text, hkept, -, hsession, -⟩ := ask_cases session question
  · rw [hsession] at h
    rw [hanswer, Option.some.inj (hkept.symm.trans h)]
  · rw [hsession] at h
    rw [hanswer, Option.some.inj h]
  · rw [hsession] at h
    exact nomatch hkept.symm.trans h

theorem answer_of_kept_step_eq_none (hquestion : next.question? = some question)
    (h : (session.step next).session.kept = none) :
    ∃ text, session.around.settings.RefusesFamily text ∧
      (session.step next).answer = .failure (.unknownFamily text) := by
  rw [step_of_question hquestion] at h ⊢
  obtain ⟨kept, hkept, hsession, -⟩ | ⟨table, -, -, hsession, -⟩ |
    ⟨text, -, hrefuses, -, hanswer⟩ := ask_cases session question
  · rw [hsession] at h
    exact nomatch hkept.symm.trans h
  · rw [hsession] at h
    exact nomatch h
  · exact ⟨text, hrefuses, hanswer⟩

theorem reply_of_append (session : Session) (before : List Step) (next : Step)
    (rest : List Step) :
    (session.replies (before ++ next :: rest))[before.length]? =
      some ((session.after before).step next) := by
  rw [replies_append, List.getElem?_append_right (Nat.le_of_eq (length_replies session before)),
    length_replies, Nat.sub_self]
  rfl

theorem answer_of_firstBuilt (hstart : start.kept = none)
    (h : FirstBuilt start.around (steps ++ [next]) table)
    (hquestion : next.question? = some question) :
    ((start.after steps).step next).answer = question ⟨table⟩ := by
  have hkept := kept_after_of_firstBuilt hstart h
  rw [after_append] at hkept
  exact answer_of_kept_step hquestion hkept

theorem answer_of_not_firstBuilt (hstart : start.kept = none)
    (h : ∀ table, ¬ FirstBuilt start.around (steps ++ [next]) table)
    (hquestion : next.question? = some question) :
    ((start.after steps).step next).session.kept = none ∧
      ∃ text, (start.around.after steps).settings.RefusesFamily text ∧
        ((start.after steps).step next).answer = .failure (.unknownFamily text) := by
  have hrecalls := Recalls.after hstart steps
  have hkept : ((start.after steps).step next).session.kept = none := by
    refine Option.eq_none_iff_forall_ne_some.mpr fun resolver hsome => ?_
    exact h resolver.table ((hrecalls.step next).firstBuilt resolver hsome)
  rw [← hrecalls.around_eq]
  exact ⟨hkept, answer_of_kept_step_eq_none hquestion hkept⟩

/-- Every question of a session is answered from the table that was built first since the last
drop, and so are all later questions up to the next drop, whatever lies between them. A question
without such a table finds the environment naming an unknown family; it fails for that reason and
leaves nothing behind. The active family is always what is decided at the moment. -/
theorem answers_from_first_built (start : Session) (hstart : start.kept = none)
    (before : List Step) (next : Step) (rest : List Step) :
    ∃ reply, (start.replies (before ++ next :: rest))[before.length]? = some reply ∧
      (∀ question, next.question? = some question →
        (∀ table, FirstBuilt start.around (before ++ [next]) table →
          reply.answer = question ⟨table⟩ ∧
            ∀ later last again, .dropResolver ∉ later → last.question? = some again →
              ((start.after (before ++ next :: later)).step last).answer = again ⟨table⟩) ∧
        ((∀ table, ¬ FirstBuilt start.around (before ++ [next]) table) →
          reply.session.kept = none ∧
            ∃ text, (start.around.after before).settings.RefusesFamily text ∧
              reply.answer = .failure (.unknownFamily text))) ∧
      (next = .activeFamily →
        (∀ family, reply.answer = .family family ↔
          ∃ origin, (start.around.after before).Decides none family origin) ∧
        (∀ failure, reply.answer = .failure failure ↔
          ∃ text, (start.around.after before).settings.RefusesFamily text ∧
            failure = .unknownFamily text)) := by
  refine ⟨_, reply_of_append start before next rest, ?_, ?_⟩
  · intro question hquestion
    constructor
    · intro table hfirst
      refine ⟨answer_of_firstBuilt hstart hfirst hquestion, ?_⟩
      intro later last again hdrop hagain
      apply answer_of_firstBuilt hstart _ hagain
      have hlast : .dropResolver ∉ later ++ [last] := by
        rw [List.mem_append, List.mem_singleton, not_or]
        refine ⟨hdrop, ?_⟩
        rintro rfl
        exact nomatch hagain
      simpa using hfirst.append hlast
    · intro hnone
      exact answer_of_not_firstBuilt hstart hnone hquestion
  · rintro rfl
    simp only [← (Recalls.after hstart before).around_eq, ← Surroundings.activeFamily_eq_ok_iff,
      ← Surroundings.activeFamily_eq_error_iff, Session.step]
    cases (start.after before).around.activeFamily <;> simp

end Answers

/-- A session on a usual machine. -/
def onReference : Session where
  around := { host := .reference }

/-- A question comes while the environment names an unknown family, then the machine alone decides,
and the next question builds a table. -/
def opening : List Step :=
  [.set .family (some "plan9"), .resolve "EPERM", .set .family none, .moveTo "Darwin"]

theorem decides_opening : (onReference.around.after opening).Decides none .darwin .detected := by
  have hsystem : Family.ofSystem "Darwin" = .darwin := by decide +kernel
  rw [← hsystem]
  exact .detected fun text hset => nomatch hset

theorem refuses_onReference :
    (onReference.around.after [.set .family (some "plan9")]).settings.RefusesFamily "plan9" :=
  ⟨rfl, by decide +kernel, by decide +kernel⟩

theorem unbuilt_asked :
    Unbuilt onReference.around [.set .family (some "plan9"), .resolve "EPERM"] := by
  have hset : Unbuilt onReference.around [.set .family (some "plan9")] :=
    (Unbuilt.nil onReference.around).append_singleton (absurd rfl)
  exact hset.append_singleton fun _ => ⟨_, refuses_onReference⟩

theorem unbuilt_opening : Unbuilt onReference.around opening := by
  have hunset : Unbuilt onReference.around
      [.set .family (some "plan9"), .resolve "EPERM", .set .family none] :=
    unbuilt_asked.append_singleton (absurd rfl)
  exact hunset.append_singleton (absurd rfl)

/-- Steps that would each lead to another table. -/
def moving : List Step := [.moveTo "Linux", .set .family (some "generic")]

theorem answers_opening {table : Table}
    (h : (Table.build .darwin
      (.standard (onReference.around.after opening).host .darwin .darwin)
        Tier.catalog).result = .ok table) :
    (Resolver.mk table).resolve "EAUTH" = some 80 ∧
      (Resolver.mk table).require "EAUTH" = .ok 80 ∧ (Resolver.mk table).toWord "EAUTH" = 80 := by
  have htier : Tier.darwinErrno ∈ Tier.active .darwin Tier.catalog := by decide +kernel
  have hname : "EAUTH" ∈ Tier.darwinErrno.names := by decide +kernel
  have hlookup : (Source.standard (onReference.around.after opening).host .darwin .darwin).lookup
      Tier.darwinErrno.category "EAUTH" = some 80 := by
    decide +kernel
  have hvalue := (Resolver.resolve_of_mem_names h htier hname).trans hlookup
  refine ⟨hvalue, Resolver.require_eq_ok_iff.mpr hvalue, ?_⟩
  rw [Resolver.toWord, hvalue]
  decide

theorem answers_from_first_built_on_reference :
    (∃ reply : Reply, (onReference.replies opening)[1]? = some reply ∧
      reply.session.kept = none ∧ ∃ text, reply.answer = .failure (.unknownFamily text)) ∧
    (∃ table, (Table.build .darwin
        (.standard (onReference.around.after opening).host .darwin .darwin)
          Tier.catalog).result = .ok table ∧
      (∃ reply : Reply, (onReference.replies (opening ++ [.word "EAUTH"]))[4]? = some reply ∧
        reply.answer = .value (some 80)) ∧
      (∀ last ∈ [.resolve "EAUTH", .require "EAUTH"],
        ((onReference.after (opening ++ .word "EAUTH" :: moving)).step last).answer =
          .value (some 80)) ∧
      ((onReference.after (opening ++ .word "EAUTH" :: moving)).step .resolver).answer =
        .resolver ⟨table⟩) ∧
    (∃ reply : Reply, (onReference.replies (opening ++ [.activeFamily]))[4]? = some reply ∧
      reply.answer = .family .darwin) ∧
    (∃ reply : Reply, (onReference.replies (opening ++ [.word "EAUTH", .moveTo "Linux",
        .activeFamily]))[6]? = some reply ∧
      reply.answer = .family .linux) ∧
    ∃ reply : Reply, (onReference.replies [.set .family (some "plan9"), .activeFamily])[1]? =
        some reply ∧
      reply.answer = .failure (.unknownFamily "plan9") := by
  refine ⟨?_, ?_, ?_, ?_, ?_⟩
  · obtain ⟨reply, hreply, hquestion, -⟩ := answers_from_first_built onReference rfl
      [.set .family (some "plan9")] (.resolve "EPERM") [.set .family none, .moveTo "Darwin"]
    obtain ⟨hkept, text, -, hanswer⟩ :=
      (hquestion _ rfl).2 fun table h => h.not_unbuilt unbuilt_asked
    exact ⟨reply, hreply, hkept, text, hanswer⟩
  · have hsystem : Family.ofSystem "Darwin" = .darwin := by decide +kernel
    obtain ⟨table, htable⟩ := Resolver.exists_build_catalog .darwin
      (.standard (onReference.around.after opening).host .darwin .darwin)
    have hfirst : FirstBuilt onReference.around (opening ++ [.word "EAUTH"]) table := by
      apply unbuilt_opening.firstBuilt (by simp [question?])
      refine ⟨.darwin, _, decides_opening, ?_⟩
      rw [← htable, show (onReference.around.after opening).host.system = "Darwin" from rfl,
        hsystem]
    obtain ⟨reply, hreply, hquestion, -⟩ :=
      answers_from_first_built onReference rfl opening (.word "EAUTH") []
    obtain ⟨hanswer, hlater⟩ := (hquestion _ rfl).1 table hfirst
    obtain ⟨hresolve, hrequire, hword⟩ := answers_opening htable
    have hmoving : Step.dropResolver ∉ moving := by simp [moving]
    refine ⟨table, htable, ⟨reply, hreply, ?_⟩, ?_, hlater moving .resolver _ hmoving rfl⟩
    · rw [hanswer, hword]
    · rw [List.forall_mem_cons, List.forall_mem_singleton]
      constructor
      · rw [hlater moving _ _ hmoving rfl, hresolve]
      · rw [hlater moving _ _ hmoving rfl, hrequire]
  · obtain ⟨reply, hreply, -, hactive⟩ :=
      answers_from_first_built onReference rfl opening .activeFamily []
    exact ⟨reply, hreply, ((hactive rfl).1 _).mpr ⟨_, decides_opening⟩⟩
  · obtain ⟨reply, hreply, -, hactive⟩ := answers_from_first_built onReference rfl
      (opening ++ [.word "EAUTH", .moveTo "Linux"]) .activeFamily []
    have hsystem : Family.ofSystem "Linux" = .linux := by decide +kernel
    refine ⟨reply, hreply, ((hactive rfl).1 _).mpr ⟨.detected, ?_⟩⟩
    rw [← hsystem]
    exact .detected fun text hset => nomatch hset
  · obtain ⟨reply, hreply, -, hactive⟩ := answers_from_first_built onReference rfl
      [.set .family (some "plan9")] .activeFamily []
    exact ⟨reply, hreply, ((hactive rfl).2 _).mpr ⟨_, refuses_onReference, rfl⟩⟩

end Session

end HeaderConstants
