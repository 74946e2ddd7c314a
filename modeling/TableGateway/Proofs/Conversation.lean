/-
This file follows plans through their conversations: the statements that a plan sends,
each with the answer of its handle, and the outcome that the plan comes to. What a plan
that is put together of others converses is the conversations of its parts, one after
another. What a session exchanges is a conversation of the plan that it runs.
-/

import TableGateway.Proofs.LastWrite

namespace TableGateway

/-- A statement with the answer of the handle. -/
abbrev Exchange := Statement × Except Failure Reply

namespace Plan

variable {Result Next : Type}

/-- A conversation of a plan with its handle, and its outcome. The first statement that is not
answered ends it. -/
inductive Converses : Plan Result → List Exchange → Except Failure Result → Prop where
  | done (result : Result) : Converses (.done result) [] (.ok result)
  | failed (failure : Failure) : Converses (.failed failure) [] (.error failure)
  | noted {level : Level} {message : String} {rest : Plan Result} {exchanges : List Exchange}
      {outcome : Except Failure Result} (talk : Converses rest exchanges outcome) :
      Converses (.note level message rest) exchanges outcome
  | answered {statement : Statement} {rest : Reply → Plan Result} {exchanges : List Exchange}
      {outcome : Except Failure Result} (reply : Reply)
      (talk : Converses (rest reply) exchanges outcome) :
      Converses (.send statement rest) ((statement, .ok reply) :: exchanges) outcome
  | broken (statement : Statement) (rest : Reply → Plan Result) (failure : Failure) :
      Converses (.send statement rest) [(statement, .error failure)] (.error failure)

variable {exchanges : List Exchange} {outcome : Except Failure Result}

/-! ### Plans put together of others -/

/-- A conversation of one plan after another is that of the first, and, unless it fails, then one of
the second. -/
theorem Converses.of_bind {plan : Plan Next} {next : Next → Plan Result}
    (talk : (plan >>= next).Converses exchanges outcome) :
    (∃ failure, plan.Converses exchanges (.error failure) ∧ outcome = .error failure) ∨
      ∃ result first second, plan.Converses first (.ok result) ∧
        (next result).Converses second outcome ∧ exchanges = first ++ second := by
  induction plan generalizing exchanges with
  | done result => exact .inr ⟨result, [], exchanges, .done result, talk, rfl⟩
  | failed failure =>
    cases talk
    exact .inl ⟨failure, .failed failure, rfl⟩
  | note level message rest inductionHypothesis =>
    cases talk with
    | noted talk =>
      rcases inductionHypothesis talk with
        ⟨failure, stopped, failed⟩ | ⟨result, first, second, before, after, whole⟩
      · exact .inl ⟨failure, .noted stopped, failed⟩
      · exact .inr ⟨result, first, second, .noted before, after, whole⟩
  | send statement rest inductionHypothesis =>
    cases talk with
    | broken _ _ failure => exact .inl ⟨failure, .broken statement rest failure, rfl⟩
    | answered reply talk =>
      rcases inductionHypothesis reply talk with
        ⟨failure, stopped, failed⟩ | ⟨result, first, second, before, after, rfl⟩
      · exact .inl ⟨failure, .answered reply stopped, failed⟩
      · exact .inr ⟨result, _, second, .answered reply before, after, rfl⟩

theorem converses_silent {plan : Plan Result} (talk : plan.Converses exchanges outcome) :
    plan.silent.Converses exchanges outcome := by
  induction talk with
  | done result => exact .done result
  | failed failure => exact .failed failure
  | noted talk inductionHypothesis => exact inductionHypothesis
  | answered reply talk inductionHypothesis => exact .answered reply inductionHypothesis
  | broken statement rest failure => exact .broken statement _ failure

/-- A plan that only checks exchanges nothing and comes to its check. -/
theorem Converses.of_check {plan : Plan Result} {checked : Except Failure Result}
    (quiet : plan.silent = ofExcept checked) (talk : plan.Converses exchanges outcome) :
    exchanges = [] ∧ outcome = checked := by
  have silentTalk := converses_silent talk
  rw [quiet] at silentTalk
  cases checked with
  | ok result =>
    cases silentTalk
    exact ⟨rfl, rfl⟩
  | error failure =>
    cases silentTalk
    exact ⟨rfl, rfl⟩

theorem Converses.of_bind_check {plan : Plan Next} {next : Next → Plan Result}
    {checked : Except Failure Next} (quiet : plan.silent = ofExcept checked)
    (talk : (plan >>= next).Converses exchanges outcome) :
    (∃ failure, checked = .error failure ∧ exchanges = [] ∧ outcome = .error failure) ∨
      ∃ result, checked = .ok result ∧ (next result).Converses exchanges outcome := by
  rcases talk.of_bind with ⟨failure, stopped, failed⟩ | ⟨result, first, second, before, after, rfl⟩
  · obtain ⟨nothing, same⟩ := stopped.of_check quiet
    exact .inl ⟨failure, same.symm, nothing, failed⟩
  · obtain ⟨rfl, same⟩ := before.of_check quiet
    exact .inr ⟨result, same.symm, after⟩

/-- A check that is known to pass is passed. -/
theorem Converses.of_bind_ok {plan : Plan Next} {next : Next → Plan Result} {result : Next}
    (quiet : plan.silent = ofExcept (.ok result))
    (talk : (plan >>= next).Converses exchanges outcome) :
    (next result).Converses exchanges outcome := by
  rcases talk.of_bind_check quiet with ⟨_, failed, -⟩ | ⟨other, passed, rest⟩
  · cases failed
  · cases passed
    exact rest

/-- A plan that only says something goes on. -/
theorem Converses.of_bind_said {plan : Plan Unit} {next : Unit → Plan Result}
    (quiet : plan.silent = pure ()) (talk : (plan >>= next).Converses exchanges outcome) :
    (next ()).Converses exchanges outcome :=
  talk.of_bind_ok quiet

/-- A plan whose result is only put in another form converses as it is. -/
theorem Converses.of_bind_pure {plan : Plan Next} {conclude : Next → Result}
    (talk : (plan >>= fun result => pure (conclude result)).Converses exchanges outcome) :
    ∃ ended, plan.Converses exchanges ended ∧ outcome = ended.map conclude := by
  rcases talk.of_bind with ⟨failure, stopped, rfl⟩ | ⟨result, first, second, before, after, rfl⟩
  · exact ⟨.error failure, stopped, rfl⟩
  · cases after
    exact ⟨.ok result, (List.append_nil first).symm ▸ before, rfl⟩

/-- After a statement, a plan goes on with the reply, if there is one. -/
theorem Converses.of_bind_ask {statement : Statement} {next : Reply → Plan Result}
    (talk : (ask statement >>= next).Converses exchanges outcome) :
    (∃ failure, exchanges = [(statement, .error failure)] ∧ outcome = .error failure) ∨
      ∃ reply rest, exchanges = (statement, .ok reply) :: rest ∧
        (next reply).Converses rest outcome := by
  cases talk with
  | answered reply rest => exact .inr ⟨reply, _, rfl, rest⟩
  | broken _ _ failure => exact .inl ⟨failure, rfl, rfl⟩

/-- A plan whose last statement is known, and which then says no more than it has to, concludes from
the answer. -/
theorem Converses.of_bind_last {statement : Statement} {next : Reply → Plan Result}
    {conclude : Reply → Result} (quiet : ∀ reply, (next reply).silent = pure (conclude reply))
    (talk : (ask statement >>= next).Converses exchanges outcome) :
    ∃ answer, exchanges = [(statement, answer)] ∧ outcome = answer.map conclude := by
  rcases talk.of_bind_ask with ⟨failure, rfl, rfl⟩ | ⟨reply, rest, rfl, concluded⟩
  · exact ⟨.error failure, rfl, rfl⟩
  · have quietly : (next reply).silent = ofExcept (.ok (conclude reply)) := quiet reply
    obtain ⟨rfl, rfl⟩ := concluded.of_check quietly
    exact ⟨.ok reply, rfl, rfl⟩

/-- Every statement of a conversation is one that the plan may send, and what it comes to is as
expected. -/
theorem Always.of_converses {plan : Plan Result} {allowed : Statement → Prop}
    {expected : Result → Prop} (always : plan.Always allowed expected)
    (talk : plan.Converses exchanges outcome) :
    (∀ exchange ∈ exchanges, allowed exchange.1) ∧
      ∀ result, outcome = .ok result → expected result := by
  induction talk with
  | done result =>
    refine ⟨by simp, fun other same => ?_⟩
    cases same
    exact always
  | failed failure => exact ⟨by simp, fun other same => by cases same⟩
  | noted talk inductionHypothesis => exact inductionHypothesis always
  | answered reply talk inductionHypothesis =>
    obtain ⟨later, met⟩ := inductionHypothesis (always.2 reply)
    exact ⟨List.forall_mem_cons.mpr ⟨always.1, later⟩, met⟩
  | broken statement rest failure =>
    exact ⟨List.forall_mem_cons.mpr ⟨always.1, by simp⟩, fun other same => by cases same⟩

end Plan

/-- What a session exchanges, and what it comes to, is a conversation of the plan that it runs. -/
theorem Session.converses_exchanges {Result : Type} (dialect : Dialect) (plan : Plan Result)
    (session : Session) :
    plan.Converses (session.exchanges dialect plan) (session.run dialect plan).1 := by
  induction plan generalizing session with
  | done result => exact .done result
  | failed failure => exact .failed failure
  | note level message rest inductionHypothesis => exact .noted (inductionHypothesis _)
  | send statement rest inductionHypothesis =>
    rw [exchanges, run]
    rcases session.statement (statement.sql dialect) statement.arguments with
      ⟨failure | reply, next⟩
    · exact .broken statement rest failure
    · exact .answered reply (inductionHypothesis reply next)

end TableGateway
