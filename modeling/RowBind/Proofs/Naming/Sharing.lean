import RowBind.Naming.Shared
import Mathlib.Data.List.Perm.Basic
import Mathlib.Data.List.Nodup

/-!
# What a shared naming remembers

It makes no difference to the callers of a naming that it is shared and that it remembers types.
Everybody gets what a new naming with the same rule replies.  Of every type one table is made at
most, whoever asks for it and however the callers meet; all of them use this table, and it stays
where it is.

What is remembered is accounted for act by act: which types were named, what was told in the
log, and which table every answer was read from.  Callers who wait have looked in vain, but what
they saw may be out of date; nothing is assumed about them.

Main statements: `Consistent.step`, every act keeps the account; and `sharedNaming_transparent`,
what the callers can count on.
-/

namespace RowBind

namespace SharedNaming

/-! ## One act -/

/-- The account of a shared naming that was asked for the given replies. -/
structure Consistent (rule : NameRule) (asked : List NamingRequest) (shared : SharedNaming) :
    Prop where
  rule_kept : shared.naming.rule = rule
  /-- No type was named twice. -/
  once : (shared.naming.tables.map (·.1)).Nodup
  /-- The log tells of every table that was made, and of nothing else. -/
  noted : shared.log = shared.naming.tables.map Naming.madeNote
  /-- Who asked was answered or is waiting. -/
  everyone : (shared.answers.map (·.request) ++ shared.waiting).Perm asked
  /-- Every answer was read from the table of its type, which is where it was. -/
  held : ∀ answer ∈ shared.answers, ∃ table,
    shared.naming.tables[answer.place]? = some (answer.request.key, table) ∧
      answer.reply = answer.request.readFrom table

variable {rule : NameRule} {asked : List NamingRequest} {shared : SharedNaming}

theorem consistent_new (rule : NameRule) : Consistent rule [] { naming := { rule } } where
  rule_kept := rfl
  once := List.nodup_nil
  noted := rfl
  everyone := .nil
  held := nofun

/-- Serving a caller adds its request to those that were answered. -/
theorem Consistent.serve (h : shared.Consistent rule asked) (request : NamingRequest) :
    (shared.serve request).Consistent rule (request :: asked) := by
  have heveryone {answer : NamingAnswer} (hrequest : answer.request = request) :
      ((shared.answers ++ [answer]).map (·.request) ++ shared.waiting).Perm (request :: asked) := by
    rw [List.map_append, List.map_singleton, hrequest, List.append_assoc]
    exact List.perm_middle.trans (h.everyone.cons request)
  obtain ⟨table, hfound, hserve⟩ | ⟨hmissing, table, htable, hserve⟩ :=
    shared.serve_cases request
  · -- the type was named before, and only the answer is new
    rw [hserve]
    refine ⟨h.rule_kept, h.once, h.noted, heveryone rfl, fun answer hanswer => ?_⟩
    obtain hbefore | hlast := List.mem_append.mp hanswer
    · exact h.held answer hbefore
    · rw [List.mem_singleton.mp hlast]
      exact ⟨table, Naming.getElem?_place hfound, rfl⟩
  · -- the table is put behind the others, so all places stay what they are
    rw [hserve]
    have hgrown : (shared.naming.remember request.key).tables =
        shared.naming.tables ++ [(request.key, table)] := by
      rw [htable]
      rfl
    refine ⟨h.rule_kept, ?_, ?_, heveryone rfl, fun answer hanswer => ?_⟩
    · rw [hgrown, List.map_append, List.map_singleton, ← List.concat_eq_append]
      exact h.once.concat (Naming.not_mem_of_not_remembered hmissing)
    · rw [hgrown, List.map_append, h.noted, List.map_singleton]
    · rw [hgrown]
      obtain hbefore | hlast := List.mem_append.mp hanswer
      · obtain ⟨kept, hkept, hreply⟩ := h.held answer hbefore
        refine ⟨kept, ?_, hreply⟩
        rw [List.getElem?_append_left (List.getElem?_eq_some_iff.mp hkept).1, hkept]
      · rw [List.mem_singleton.mp hlast]
        exact ⟨table, List.getElem?_concat_length, rfl⟩

/-- It does not matter to the account in which order callers wait or asked. -/
theorem Consistent.regroup (h : shared.Consistent rule asked) (waiting : List NamingRequest)
    {others : List NamingRequest}
    (heveryone : (shared.answers.map (·.request) ++ waiting).Perm others) :
    ({ shared with waiting } : SharedNaming).Consistent rule others :=
  ⟨h.rule_kept, h.once, h.noted, heveryone, h.held⟩

/-- **Every act keeps the account.** -/
theorem Consistent.step (h : shared.Consistent rule asked) (act : NamingAct) :
    (shared.step act).Consistent rule (asked ++ act.asked?.toList) := by
  cases act with
  | ask request =>
      have hsorted : (request :: asked).Perm (asked ++ [request]) :=
        (List.perm_append_singleton request asked).symm
      rw [SharedNaming.step]
      split
      · have hserved := h.serve request
        exact hserved.regroup _ (hserved.everyone.trans hsorted)
      · refine h.regroup _ ?_
        rw [← List.append_assoc]
        exact h.everyone.append_right [request]
  | letIn waiter =>
      rw [NamingAct.asked?, Option.toList_none, List.append_nil, SharedNaming.step]
      split
      · next request hwaits =>
        have hout := (h.regroup (shared.waiting.eraseIdx waiter) (.refl _)).serve request
        obtain ⟨hlt, rfl⟩ := List.getElem?_eq_some_iff.mp hwaits
        -- the caller goes from those who wait to those who were answered
        refine hout.regroup _ (hout.everyone.trans (.trans ?_ h.everyone))
        refine List.perm_middle.symm.trans (.append_left _ ?_)
        exact List.getElem_cons_eraseIdx_perm hlt
      · exact h

/-! ## Many acts -/

theorem Consistent.run (h : shared.Consistent rule asked) (acts : List NamingAct) :
    (shared.run acts).Consistent rule (asked ++ acts.filterMap NamingAct.asked?) := by
  induction acts generalizing shared asked with
  | nil => exact (List.append_nil asked).symm ▸ h
  | cons act acts ih =>
      have hrest := ih (h.step act)
      have hasked : act.asked?.toList ++ acts.filterMap NamingAct.asked? =
          (act :: acts).filterMap NamingAct.asked? := by
        rw [List.filterMap_cons]
        cases act.asked? <;> rfl
      rwa [List.append_assoc, hasked] at hrest

/-- No table is given up, and no answer is taken back. -/
theorem serve_grows (shared : SharedNaming) (request : NamingRequest) :
    shared.naming.tables <+: (shared.serve request).naming.tables ∧
      shared.answers <+: (shared.serve request).answers := by
  obtain ⟨table, -, hserve⟩ | ⟨-, table, -, hserve⟩ := shared.serve_cases request
  · rw [hserve]
    exact ⟨List.prefix_refl _, List.prefix_append ..⟩
  · rw [hserve]
    exact ⟨List.prefix_append .., List.prefix_append ..⟩

theorem step_grows (shared : SharedNaming) (act : NamingAct) :
    shared.naming.tables <+: (shared.step act).naming.tables ∧
      shared.answers <+: (shared.step act).answers := by
  cases act with
  | ask request =>
      rw [SharedNaming.step]
      split
      · exact shared.serve_grows request
      · exact ⟨List.prefix_refl _, List.prefix_refl _⟩
  | letIn waiter =>
      rw [SharedNaming.step]
      split
      · exact serve_grows { shared with waiting := shared.waiting.eraseIdx waiter } _
      · exact ⟨List.prefix_refl _, List.prefix_refl _⟩

theorem run_grows (shared : SharedNaming) (acts : List NamingAct) :
    shared.naming.tables <+: (shared.run acts).naming.tables ∧
      shared.answers <+: (shared.run acts).answers := by
  induction acts generalizing shared with
  | nil => exact ⟨List.prefix_refl _, List.prefix_refl _⟩
  | cons act acts ih =>
      have hfirst := shared.step_grows act
      have hrest := ih (shared.step act)
      exact ⟨hfirst.1.trans hrest.1, hfirst.2.trans hrest.2⟩

/-- Nobody waits any more when all have been let in, one after the other. -/
theorem waiting_run_letIn (shared : SharedNaming) :
    (shared.run (List.replicate shared.waiting.length (.letIn 0))).waiting = [] := by
  generalize hwaiting : shared.waiting = waiting
  induction waiting generalizing shared with
  | nil => exact hwaiting
  | cons request waiting ih =>
      refine ih (shared.step (.letIn 0)) ?_
      simp [SharedNaming.step, hwaiting, serve_waiting]

/-- The place of an answer is that of its type. -/
theorem Consistent.key_at_place (h : shared.Consistent rule asked) {answer : NamingAnswer}
    (hanswer : answer ∈ shared.answers) :
    (shared.naming.tables.map (·.1))[answer.place]? = some answer.request.key := by
  obtain ⟨table, hheld, -⟩ := h.held answer hanswer
  rw [List.getElem?_map, hheld]
  rfl

/-- Answers were read from one table exactly if they are about one type. -/
theorem Consistent.place_eq_iff (h : shared.Consistent rule asked) {a b : NamingAnswer}
    (ha : a ∈ shared.answers) (hb : b ∈ shared.answers) :
    a.place = b.place ↔ a.request.key = b.request.key := by
  obtain ⟨hlt, -⟩ := List.getElem?_eq_some_iff.mp (h.key_at_place ha)
  rw [← List.getElem?_inj hlt h.once, h.key_at_place ha, h.key_at_place hb, Option.some_inj]

/-- Every answer is that of a new naming with the same rule. -/
theorem Consistent.reply_eq (h : shared.Consistent rule asked) {answer : NamingAnswer}
    (hanswer : answer ∈ shared.answers) :
    answer.reply = (({ rule } : Naming).reply answer.request).1 := by
  obtain ⟨table, hheld, hreply⟩ := h.held answer hanswer
  have htable := shared.naming.tables_ofLayout _ (List.mem_of_getElem? hheld)
  rw [hreply, Naming.reply_fst, ← h.rule_kept]
  exact congrArg answer.request.readFrom htable

end SharedNaming

/-- A new naming that is shared, after some acts. -/
def SharedNaming.after (rule : NameRule) (acts : List NamingAct) : SharedNaming :=
  ({ naming := { rule } } : SharedNaming).run acts

open SharedNaming in
/-- What those who share a naming can count on. -/
structure TransparentNaming (rule : NameRule) (acts : List NamingAct) : Prop where
  /-- Everybody gets what a new naming replies. -/
  fresh : ∀ answer ∈ (after rule acts).answers,
    answer.reply = (({ rule } : Naming).reply answer.request).1
  /-- Every table that is kept is that of the layout of its own type. -/
  kept : ∀ entry ∈ (after rule acts).naming.tables,
    entry.2 = NameTable.ofLayout rule entry.1.layout
  /-- No type is named twice. -/
  once : ((after rule acts).naming.tables.map (·.1)).Nodup
  /-- The log tells of every table that was made, and of nothing else. -/
  noted : (after rule acts).log = (after rule acts).naming.tables.map Naming.madeNote
  /-- An answer was read from the table that is kept of the type. -/
  held : ∀ answer ∈ (after rule acts).answers, ∃ table,
    (after rule acts).naming.tables[answer.place]? = some (answer.request.key, table) ∧
      answer.reply = answer.request.readFrom table
  /-- Who asks about one type is answered from one table. -/
  oneTable : ∀ a ∈ (after rule acts).answers, ∀ b ∈ (after rule acts).answers,
    a.place = b.place ↔ a.request.key = b.request.key
  /-- Whatever comes later, all tables stay where they are, and all answers stand. -/
  lasting : ∀ later, (after rule acts).naming.tables <+: (after rule (acts ++ later)).naming.tables ∧
    (after rule acts).answers <+: (after rule (acts ++ later)).answers
  /-- Everybody is answered, once those who wait have been let in. -/
  everyone : ((after rule
      (acts ++ List.replicate (after rule acts).waiting.length (.letIn 0))).answers.map
        (·.request)).Perm (acts.filterMap NamingAct.asked?)

/-- **A naming that is shared is as good as a new one**, whatever its callers ask and in which
order they come and go. -/
theorem sharedNaming_transparent (rule : NameRule) (acts : List NamingAct) :
    TransparentNaming rule acts := by
  have hconsistent (acts : List NamingAct) :
      (SharedNaming.after rule acts).Consistent rule (acts.filterMap NamingAct.asked?) :=
    (SharedNaming.consistent_new rule).run acts
  have hlater (later : List NamingAct) : SharedNaming.after rule (acts ++ later) =
      (SharedNaming.after rule acts).run later := List.foldl_append
  have h := hconsistent acts
  refine ⟨fun _ => h.reply_eq, fun entry hentry => ?_, h.once, h.noted, h.held,
    fun _ ha _ hb => h.place_eq_iff ha hb, fun later => ?_, ?_⟩
  · rw [(SharedNaming.after rule acts).naming.tables_ofLayout entry hentry, h.rule_kept]
  · rw [hlater]
    exact SharedNaming.run_grows _ later
  · have hall := (hconsistent
      (acts ++ List.replicate (SharedNaming.after rule acts).waiting.length (.letIn 0))).everyone
    rw [hlater, SharedNaming.waiting_run_letIn, ← hlater, List.append_nil, List.filterMap_append,
      List.filterMap_replicate_of_none rfl, List.append_nil] at hall
    exact hall

/-- Two callers look in vain, and who is let in last finds the table of the other. -/
example :
    let order : TypeKey := ⟨"Order", .column ⟨"id", "id", false⟩ .nil⟩
    let shared := SharedNaming.after id
      [.ask (.table order), .ask (.routes order ["id"]), .letIn 1, .letIn 0]
    shared.answers.map (·.place) = [0, 0] ∧ shared.naming.tables.length = 1 := by
  decide

end RowBind
